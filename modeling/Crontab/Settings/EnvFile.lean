import Crontab.Line
import Crontab.Register
import Crontab.Text.Blank

/-!
# Environment files

An environment file gives variables, one to a line, as `NAME=value`. A number sign starts a comment;
a value may stand between quotes, single or double, and then go over several lines; and a value may
refer to another variable. A line that is none of these is passed over. A byte order mark in front
of the file is no part of it, and every kind of line break counts as a line feed.
-/

namespace Crontab.EnvFile

/-- A blank that does not end a line. -/
def isGap (c : CodePoint) : Bool := Text.isSeparator c && c ≠ '\n'

/-- A code point that does not end a line. -/
def onLine (c : CodePoint) : Bool := c ≠ '\n'

/-- A line of a file: a name, if there is one, and a value, if there is one. -/
structure Binding where
  /-- The name. -/
  name : Option Text
  /-- The value. -/
  value : Option Text
  deriving DecidableEq, Repr

/-- What was read, if it could be, and what is left to read. Reading stops where it fails. -/
structure Result (α : Type) where
  /-- What was read. -/
  read : Option α
  /-- What is left. -/
  rest : Text

/-- Passes over the word that may stand in front of a name. -/
def skipExport (text : Text) : Text :=
  let word := Text.ofString "export"
  let rest := text.drop word.length
  if word.isPrefixOf text && rest.head?.any isGap then rest.dropWhile isGap else text

/-- Reads a name. A comment has none. -/
def name (text : Text) : Result (Option Text) :=
  match text with
  | '#' :: _ => ⟨some none, text⟩
  | '\x27' :: quoted =>
    let inside := quoted.takeWhile (· ≠ .char '\x27')
    match quoted.dropWhile (· ≠ .char '\x27') with
    | _ :: rest => if inside.isEmpty then ⟨none, text⟩ else ⟨some (some inside), rest⟩
    | [] => ⟨none, text⟩
  | _ =>
    let isName (c : CodePoint) : Bool := c ≠ '=' && c ≠ '#' && !Text.isSeparator c
    let word := text.takeWhile isName
    if word.isEmpty then ⟨none, text⟩ else ⟨some (some word), text.dropWhile isName⟩

/-- Splits a text at its closing quote. A backslash takes the next code point with it, whatever that
is. What is inside is kept latest first. -/
def closing (quote : CodePoint) (inside : Text) : Text → Option (Text × Text)
  | [] => none
  | '\\' :: c :: rest => closing quote (c :: .char '\\' :: inside) rest
  | c :: rest => if c = quote then some (inside, rest) else closing quote (c :: inside) rest

/-- The character that a letter after a backslash stands for between double quotes. -/
def escaped? : CodePoint → Option Char
  | '\\' => some '\\'
  | '\x27' => some '\x27'
  | '\x22' => some '\x22'
  | 'a' => some '\x07'
  | 'b' => some '\x08'
  | 'f' => some '\x0c'
  | 'n' => some '\n'
  | 'r' => some '\r'
  | 't' => some '\t'
  | 'v' => some '\x0b'
  | _ => none

/-- The character that a letter after a backslash stands for between single quotes. -/
def escapedSingle? : CodePoint → Option Char
  | '\\' => some '\\'
  | '\x27' => some '\x27'
  | _ => none

/-- Undoes the escapes of a quoted value. -/
def unescape (escape? : CodePoint → Option Char) : Text → Text
  | '\\' :: c :: rest =>
    match escape? c with
    | some d => d :: unescape escape? rest
    | none => '\\' :: unescape escape? (c :: rest)
  | c :: rest => c :: unescape escape? rest
  | [] => []

/-- Reads a value between quotes. -/
def quoted (quote : CodePoint) (escape? : CodePoint → Option Char) (text : Text) : Result Text :=
  match closing quote [] (text.drop 1) with
  | some (inside, rest) => ⟨some (unescape escape? inside.reverse), rest⟩
  | none => ⟨none, text⟩

/-- An unquoted value up to a comment, which has a blank before its number sign. What is read is
kept latest first. -/
def uncommented (done : Text) : Text → Text
  | [] => done.reverse
  | c :: rest =>
    if c = '#' && done.head?.any Text.isSeparator then done.reverse
    else uncommented (c :: done) rest

/-- Reads a value. -/
def value (text : Text) : Result Text :=
  let start := text.dropWhile isGap
  match start with
  | '\x27' :: _ => quoted '\x27' escapedSingle? start
  | '\x22' :: _ => quoted '\x22' escaped? start
  | _ =>
    let part := uncommented [] (text.takeWhile onLine)
    ⟨some (Text.trim Text.isSeparator part), text.dropWhile onLine⟩

/-- Reads a value if a sign announces one. -/
def assigned (text : Text) : Result (Option Text) :=
  match text with
  | '=' :: rest =>
    let result := value rest
    ⟨result.read.map some, result.rest⟩
  | _ => ⟨some none, text⟩

/-- Passes over a comment. -/
def skipComment (text : Text) : Text :=
  match text.dropWhile isGap with
  | '#' :: rest => rest.dropWhile onLine
  | _ => text

/-- Reads the end of a line. -/
def lineEnd (text : Text) : Result Unit :=
  match text.dropWhile isGap with
  | [] => ⟨some (), []⟩
  | c :: rest => if onLine c then ⟨none, text⟩ else ⟨some (), rest⟩

/-- Passes over the rest of a line and its break. -/
def skipLine (text : Text) : Text := (text.dropWhile onLine).drop 1

/-- Reads one line, from its first character that is not blank. -/
def binding (text : Text) : Result Binding :=
  let named := name (skipExport text)
  match named.read with
  | none => ⟨none, skipLine named.rest⟩
  | some name =>
    let valued := assigned (named.rest.dropWhile isGap)
    match valued.read with
    | none => ⟨none, skipLine valued.rest⟩
    | some value =>
      let ended := lineEnd (skipComment valued.rest)
      match ended.read with
      | none => ⟨none, skipLine ended.rest⟩
      | some () => ⟨some ⟨name, value⟩, ended.rest⟩

/-- Reads at most `fuel` lines. -/
def bindingsWithin : Nat → Text → List Binding
  | 0, _ => []
  | fuel + 1, text =>
    match text.dropWhile Text.isSeparator with
    | [] => []
    | start@(_ :: _) =>
      let result := binding start
      result.read.toList ++ bindingsWithin fuel result.rest

/-- A file without a byte order mark in front, and with a line feed for every line break. -/
def normal (text : Text) : Text :=
  let text := match text with
    | '\ufeff' :: rest => rest
    | _ => text
  Text.joined '\n' (Line.split text)

/-- The lines of a file. Each takes at least one code point, so the length of the file bounds them.
-/
def bindings (text : Text) : List Binding :=
  let text := normal text
  bindingsWithin text.length text

/-- A reference in a value: a name in braces after a dollar sign, with a default after `:-`. Gives
the name, the default and what follows. -/
def reference? (text : Text) : Option (Text × Text × Text) :=
  let name := text.takeWhile fun (c : CodePoint) => c ≠ '\x7d' && c ≠ ':'
  match text.drop name.length with
  | '\x7d' :: rest => some (name, [], rest)
  | ':' :: '-' :: more =>
    let default := more.takeWhile (· ≠ .char '\x7d')
    match more.drop default.length with
    | _ :: rest => some (name, default, rest)
    | [] => none
  | _ => none

/-- Replaces the references in a value, at most `fuel` code points of it. -/
def expandWithin (lookup : Text → Text → Text) : Nat → Text → Text
  | fuel + 1, '$' :: '\x7b' :: rest =>
    match reference? rest with
    | some (name, default, rest) => lookup name default ++ expandWithin lookup fuel rest
    | none => '$' :: expandWithin lookup fuel ('\x7b' :: rest)
  | fuel + 1, c :: rest => c :: expandWithin lookup fuel rest
  | _, _ => []

/-- Replaces the references in a value. -/
def expand (lookup : Text → Text → Text) (value : Text) : Text :=
  expandWithin lookup value.length value

/-- Enters one line. References see the lines before it, and then the environment. -/
def enter (environment : List (Text × Text)) (held : Register (Option Text)) (b : Binding) :
    Register (Option Text) :=
  match b.name with
  | none => held
  | some name =>
    let lookup (name default : Text) : Text :=
      match held.get? name with
      | some value => value.getD []
      | none => (environment.lookup name).getD default
    held.put name (b.value.map (expand lookup))

/-- The variables of a file, in the order of their first lines. -/
def assignments (environment : List (Text × Text)) (text : Text) : Register (Option Text) :=
  (bindings text).foldl (enter environment) .empty

end Crontab.EnvFile
