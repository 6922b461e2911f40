import Crontab.Settings.Arguments
import Crontab.Settings.Flags
import Crontab.Text.Identifier

/-!
# Command lines

A caller can hand on a command line. Some arguments say how the flags of it are spelled: what stands
in front of names, whether low lines are dashes, which mark flags have, and which settings have
further flags. These arguments are checked as soon as there is a command line, even one that is not
looked at.
-/

namespace Crontab.Settings.Arguments

/-- The argument that gives the value of a flag that counts for null. -/
def flagNullWord (arguments : Arguments) : Json :=
  let given := ["_env_parse_none_str", "_cli_parse_none_str"].filterMap arguments.get?
  match given.find? Json.saysYes, arguments.get? "_cli_avoid_json" with
  | some v, _ => v
  | none, some (.bool true) => .word "None"
  | none, _ => .word "null"

/-- What stands in front of the names of settings in flags. It is an identifier, or several with
points between them, and has a point behind it. -/
def flagFront (arguments : Arguments) : Except Misuse Text :=
  match arguments.get? "_cli_prefix" with
  | some (.string front) =>
    let ends := [front.head?, front.getLast?].contains (some '.')
    if front = [] then .ok []
    else if ends || !Text.isIdentifier (front.filter (· ≠ .char '.')) then .error .refused
    else .ok (front ++ Text.ofString ".")
  | some v =>
    if v.saysYes then .error .operation else if v.isNumber then .error .kind else .ok []
  | none => .ok []

/-- The marks of flags. They cannot be an object, and that is found out before anything else. -/
def checkMarks (arguments : Arguments) : Except Misuse Unit :=
  match arguments.get? "_cli_flag_prefix_char" with
  | some (.object _) => .error .kind
  | _ => .ok ()

/-- The marks of flags, unless they are a list. -/
def marks? (arguments : Arguments) : Except Misuse (Option Text) :=
  match arguments.get? "_cli_flag_prefix_char" with
  | none => .ok (some (.ofString "-"))
  | some (.string []) => .error (.unmarked true)
  | some (.string marks) => .ok (some marks)
  | some (.array []) => .error (.unmarked false)
  | some (.array (first :: rest)) =>
    let hasDash := (first :: rest).any fun v => v.text? = some (.ofString "-")
    if hasDash || first.text?.isSome then .ok none else .error .kind
  | some _ => .error .kind

/-- Reads whether low lines are dashes in flags. There are two words for it besides truth values. -/
def checkDashes (v : Json) : Checked Unit :=
  let isWord := ["all", "no_enums"].any fun word => v.text? = some (.ofString word)
  match Json.asTruth v with
  | .ok _ => .ok ()
  | .error flaw =>
    if isWord then .ok ()
    else .failed [.of flaw ["kebab_case", "bool"] v,
      .of .notAllowed ["kebab_case", "literal['all','no_enums']"] v]

/-- Checks the values of the arguments that say how flags are declared. -/
def checkDeclared (arguments : Arguments) : Checked Unit :=
  let truth (place name : String) : Checked Bool :=
    Checked.optional [place] false Json.asTruth (arguments.get? name)
  (fun _ _ _ _ => ())
    <$> Checked.optional ["arg_prefix"] [] Json.asText (arguments.get? "_cli_prefix")
    <*> truth "case_sensitive" "_case_sensitive"
    <*> truth "hide_none_type" "_cli_hide_none_type"
    <*> ((arguments.get? "_cli_kebab_case").map checkDashes).getD (.ok ())

/-- The further flags of settings, under what their first flags have behind the marks. -/
def shortcuts (arguments : Arguments) : Except Misuse (List (Text × Json)) :=
  match arguments.get? "_cli_shortcuts" with
  | some (.object fields) => .ok fields
  | some v => if v.saysYes then .error .operation else .ok []
  | none => .ok []

/-- The names that a shortcut gives. Those that are lists or objects cannot be typed. -/
def shortcutNames (v : Json) : Except Misuse (List Text) := do
  let names ← match v, v.members? with
    | .string name, _ => pure [.string name]
    | _, some names => pure names
    | _, none => .error .kind
  let texts ← names.mapM fun name =>
    match name with
    | .string name => pure (some name)
    | .array _ | .object _ => pure none
    | _ => .error .kind
  return texts.filterMap id

/-- The flags declared so far. -/
structure Declared where
  /-- What they have behind their marks. -/
  names : List Text
  /-- The flags. -/
  table : Flags.Table

/-- The flag of a name. One character makes a short flag. -/
def Declared.flag (declared : Declared) (name : Text) : Text :=
  let marks := (declared.table.marks ++ declared.table.marks).take 2
  marks.take (if name.length = 1 then 1 else 2) ++ name

/-- The names of a setting: the one given, and those of the shortcuts to any that it has so far.
None of them can be declared already. -/
def Declared.namesOf (declared : Declared) (name : Text) (shortcuts : List (Text × Json)) :
    Except Misuse (List Text) :=
  let free (names : List Text) : List Text := names.filter fun n => !declared.names.contains n
  shortcuts.foldlM (fun names shortcut => do
    if names.contains shortcut.1 then return names ++ free (← shortcutNames shortcut.2)
    else return names) (free [name])

/-- Declares the flags of a setting. -/
def declare (arguments : Arguments) (front : Text) (shortcuts : List (Text × Json))
    (declared : Declared) (setting : String) : Except Misuse Declared := do
  let hidesNull := arguments.affirms "_cli_hide_none_type"
  if setting = "port" && arguments.flagNullWord.text?.isNone && !hidesNull then throw .kind
  let dashes := arguments.affirms "_cli_kebab_case"
  let spell (c : CodePoint) : CodePoint := if dashes && c = '_' then '-' else c
  let full := front ++ Text.ofString setting
  let names ← declared.namesOf (full.map spell) shortcuts
  if names = [] || declared.names.contains full then return declared
  let flags := names.map declared.flag
  if flags.any fun flag => (declared.table.use? flag).isSome then throw .clash
  let uses := flags.map fun flag => (flag, Flags.Use.setting (.ofString setting))
  let table := { declared.table with flags := declared.table.flags ++ uses }
  return ⟨declared.names ++ names, table⟩

/-- The flags for help. -/
def helpFlags (marks : Text) : List (Text × Flags.Use) :=
  let mark : CodePoint := if marks.contains '-' then '-' else marks.headD '-'
  [([mark, 'h'], .help), ([mark, mark] ++ Text.ofString "help", .help)]

/-- The flags of a command line. -/
def flagTable (arguments : Arguments) : Except Misuse Flags.Table := do
  arguments.checkMarks
  let front ← arguments.flagFront
  let marks? ← arguments.marks?
  if let .failed ps := arguments.checkDeclared then throw (.flawed ps)
  let shortcuts ← arguments.shortcuts
  match marks? with
  | none => .error .listedMarks
  | some marks =>
    let start : Declared := ⟨[], ⟨marks, helpFlags marks⟩⟩
    return (← names.foldlM (arguments.declare front shortcuts) start).table

/-- Case matters in flags, unless it is said in so many words that it does not. -/
def exactFlags (arguments : Arguments) : Bool :=
  match arguments.get? "_case_sensitive" with
  | none | some (.bool false) => false
  | some _ => true

/-- A word of a command line in which case does not matter. In place of a value that says no there
is an empty word. -/
def foldedWord (v : Json) : Except Misuse Text :=
  match v with
  | .string s => .ok s
  | _ => if v.saysYes then .error .kind else .ok []

/-- A mark can be looked for in words without regard to case. Letters and digits have a meaning of
their own there, and most of them have none. -/
def isSearchable (marks : Text) : Bool :=
  !marks.head?.any fun c =>
    c.isIn Char.isAlphanum && !(Text.ofString "adfnrstvwDSW0").contains c

/-- The words of a command line as they are read. -/
def flagWords (arguments : Arguments) (table : Flags.Table) (vs : List Json) :
    Except Misuse (List Json) := do
  if arguments.exactFlags then return vs
  let texts ← vs.mapM foldedWord
  if texts ≠ [] && !isSearchable table.marks then .error .unsearchable
  else return texts.map fun text => .string (table.unfolded text)

/-- What a command line does that gives no settings. -/
def flagMisuse (arguments : Arguments) : Flags.Fault → Misuse
  | .help => .ended
  | .wrong =>
    match arguments.get? "_cli_exit_on_error" with
    | some v => if v.saysYes then .ended else .refused
    | none => .ended
  | .kind => .kind
  | .object => .objectWord

/-- The value that a setting has from a flag. Nothing stands for no value, and an empty list for how
it is written. -/
def flagValue? (nullWord v : Json) : Option Json :=
  match v with
  | .null => none
  | .array _ => some (.word "[]")
  | .string s => some (if nullWord.text? = some s then .null else v)
  | _ => some v

/-- The settings that the words of a command line give. -/
def flagsOf (arguments : Arguments) (table : Flags.Table) (vs : List Json) :
    Except Misuse (List (Text × Json)) := do
  let words ← arguments.flagWords table vs
  match table.read (arguments.affirms "_cli_ignore_unknown_args") words with
  | .ok given =>
    return names.filterMap fun name => do
      let v ← Json.lookup? given name
      return (.ofString name, ← flagValue? arguments.flagNullWord v)
  | .error fault => .error (arguments.flagMisuse fault)

/-- The settings that a command line gives. The one of the service itself is empty. -/
def flags (arguments : Arguments) : Except Misuse (List (Text × Json)) :=
  match arguments.get? "_cli_parse_args" with
  | none => .ok []
  | some v => do
    let table ← arguments.flagTable
    match v with
    | .bool true => arguments.flagsOf table []
    | .array words => arguments.flagsOf table words
    | _ => if v.isNumber && !v.saysYes then return [] else .error .refused

end Crontab.Settings.Arguments
