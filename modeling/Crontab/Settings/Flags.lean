import Crontab.Json
import Crontab.Text.Blank
import Crontab.Text.Decimals
import Crontab.Text.Lowercase

/-!
# Flags

Settings given as the words of a command line. A flag starts with a mark, as a rule a dash: a short
one with one mark and a long one with two. The value of a setting is the next word, or stands behind
an equals sign, or right behind a short flag. Two dashes alone end the flags.
-/

namespace Crontab.Settings.Flags

/-- What a flag is for. -/
inductive Use where
  /-- It takes the value of a setting. -/
  | setting (name : Text)
  /-- It asks for help. -/
  | help
  deriving DecidableEq, Repr

/-- The flags that a command line can have. -/
structure Table where
  /-- The marks with which flags can start. -/
  marks : Text
  /-- The flags and what they are for. -/
  flags : List (Text × Use)
  deriving DecidableEq, Repr

/-- What stands behind a flag in one word with it. -/
structure Tail where
  /-- There is an equals sign between the two. -/
  separated : Bool
  /-- What it is. -/
  text : Text
  deriving DecidableEq, Repr

/-- What a word of a command line is. -/
inductive Word where
  /-- A flag. -/
  | flag (text : Text) (use : Use) (tail : Option Tail)
  /-- The end of the flags. -/
  | ending
  /-- Something that looks like a flag and is none. -/
  | stranger (text : Text)
  /-- A value. -/
  | value (v : Json)

/-- Why a command line gives no settings. -/
inductive Fault where
  /-- It asks for help. -/
  | help
  /-- It is wrong. -/
  | wrong
  /-- A word of it is a number or a list, where only a text or nothing can be. -/
  | kind
  /-- A word of it is an object. -/
  | object
  deriving DecidableEq, Repr

/-- A text spells a negative number: a dash, then digits of any script, with a point among them or
before them. A line feed at its very end does not count. -/
def isNegativeNumber (text : Text) : Bool :=
  let text := if text.getLast? = some (.char '\n') then text.dropLast else text
  match text with
  | '-' :: digits =>
    match Text.pieces '.' digits with
    | [whole] => whole ≠ [] && whole.all Text.isDecimal
    | [whole, fraction] =>
      whole.all Text.isDecimal && fraction ≠ [] && fraction.all Text.isDecimal
    | _ => false
  | _ => false

namespace Table

variable (table : Table)

/-- What a flag is for. -/
def use? (text : Text) : Option Use := table.flags.lookup text

/-- A code point is a mark. -/
def isMark (c : CodePoint) : Bool := table.marks.contains c

/-- A flag looks like a negative number, so that such a number cannot be told from a flag. -/
def hasNumbers : Bool := table.flags.any fun flag => isNegativeNumber flag.1

/-- The flags that a word with one mark can start with or be the start of. -/
def starts (text : Text) : List Word :=
  match text with
  | _ :: c :: rest =>
    if table.isMark c then []
    else table.flags.filterMap fun (flag, use) =>
      if flag = text.take 2 then some (.flag flag use (some ⟨false, rest⟩))
      else if text.isPrefixOf flag then some (.flag flag use none)
      else none
  | _ => []

/-- What a word is that starts with a mark and is no flag and no mark alone. -/
def marked (text : Text) : Except Fault Word :=
  let name := text.takeWhile (· ≠ .char '=')
  match table.use? name, text.drop name.length with
  | some use, _ :: value => .ok (.flag name use (some ⟨true, value⟩))
  | _, _ =>
    match table.starts text with
    | [word] => .ok word
    | _ :: _ => .error .wrong
    | [] =>
      if (isNegativeNumber text && !table.hasNumbers) || text.contains ' ' then
        .ok (.value (.string text))
      else .ok (.stranger text)

/-- What a word is before the end of the flags. -/
def word (v : Json) : Except Fault Word :=
  match v with
  | .string [] => .ok (.value v)
  | .string (c :: rest) =>
    if !table.isMark c then .ok (.value v)
    else
      match table.use? (c :: rest) with
      | some use => .ok (.flag (c :: rest) use none)
      | none => if rest = [] then .ok (.value v) else table.marked (c :: rest)
  | .object (_ :: _) => .error .object
  | _ => if v.saysYes then .error .kind else .ok (.value v)

/-- What the words of a command line are. -/
def words : List Json → Except Fault (List Word)
  | [] => .ok []
  | v :: rest => do
    if v.text? = some (.ofString "--") then return .ending :: rest.map .value
    return (← table.word v) :: (← words rest)

/-- What comes of a call for help with more behind it in one word, which can be further short flags.
A setting among them has to have a value, and whether the next word is one is known. -/
def afterHelp (mark : CodePoint) (hasNext : Bool) (separated : Bool) : Text → Fault
  | [] => .wrong
  | c :: rest =>
    if separated || table.isMark c then .wrong
    else
      match table.use? [mark, c], rest with
      | none, _ | some .help, [] => .help
      | some .help, '=' :: rest => afterHelp mark hasNext true rest
      | some .help, rest => afterHelp mark hasNext false rest
      | some (.setting _), [] => if hasNext then .help else .wrong
      | some (.setting _), _ => .help

/-- What comes of a call for help. -/
def helpFault (text : Text) (hasNext : Bool) : Option Tail → Fault
  | none => .help
  | some tail =>
    match text with
    | mark :: c :: _ =>
      if table.isMark c then .wrong else table.afterHelp mark hasNext tail.separated tail.text
    | _ => .wrong

/-- The first of some words is a value. -/
def startsWithValue : List Word → Bool
  | .value _ :: _ => true
  | _ => false

/-- The values that a command line gives, latest first, and the words of it that are left over. -/
def collect (given : List (Text × Json)) (left : List Json) :
    List Word → Except Fault (List (Text × Json) × List Json)
  | [] => .ok (given, left)
  | .flag _ (.setting name) (some tail) :: rest =>
    collect ((name, .string tail.text) :: given) left rest
  | .flag _ (.setting name) none :: .value v :: rest => collect ((name, v) :: given) left rest
  | .flag _ (.setting _) none :: _ => .error .wrong
  | .flag text .help tail :: rest => .error (table.helpFault text (startsWithValue rest) tail)
  | .ending :: rest => collect given (.word "--" :: left) rest
  | .stranger text :: rest => collect given (.string text :: left) rest
  | .value v :: rest => collect given (v :: left) rest

/-- The values that a command line gives, latest first. Words may be left over if it is `lenient`.
-/
def read (lenient : Bool) (vs : List Json) : Except Fault (List (Text × Json)) := do
  let (given, left) ← table.collect [] [] (← table.words vs)
  if lenient || left.isEmpty then return given
  else if left.any fun v => v.text?.isNone then .error .kind
  else .error .wrong

/-- A code point can stand in a flag behind its marks. -/
def inFlag (c : CodePoint) : Bool := c ≠ '=' && !Text.isSeparator c

/-- The part of a word that looks like a flag: the marks, of which the last can be there twice, and
what comes after them up to a blank or an equals sign. -/
def flagPart? (text : Text) : Option Text := do
  let mark ← table.marks.getLast?
  let lead := table.marks.dropLast
  if !lead.isPrefixOf text then none
  else
    let text := text.drop lead.length
    let twice := (text.take 2).takeWhile (· = mark)
    let name := (text.drop twice.length).takeWhile inFlag
    if twice = [] then none
    else if name ≠ [] then some (lead ++ twice ++ name)
    else if twice.length = 2 && inFlag mark then some (lead ++ twice)
    else none

/-- A flag as it was declared, whatever case its letters have here. A short flag can have a value
right behind it, which stays as it is. -/
def declared (text : Text) : Text :=
  let find (text : Text) : Option Text :=
    (table.use? text).map (fun _ => text) |>.or
      ((table.flags.find? fun flag => flag.1.lower = text.lower).map Prod.fst)
  match find text with
  | some flag => flag
  | none =>
    if text.tail.head?.any table.isMark then text
    else
      match find (text.take 2) with
      | some flag => flag ++ text.drop 2
      | none => text

/-- A word with its flag, if it has one, as it was declared. What comes after the flag ends with the
line. -/
def unfolded (text : Text) : Text :=
  match table.flagPart? text with
  | some flag =>
    table.declared flag ++ (text.drop flag.length).takeWhile (· ≠ .char '\n')
  | none => text

end Table

end Crontab.Settings.Flags
