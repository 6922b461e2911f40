import Crontab.Json
import Crontab.Register
import Crontab.Text.Lowercase

/-!
# Reading variables

How variables give settings. A setting has a variable, whose name is that of the setting, as a rule
with some text in front of it. Case may matter in the names of variables or not, and some of their
values may count for nothing or for null.
-/

namespace Crontab.Settings

/-- The names of the settings. -/
def names : List String :=
  ["log_level", "diagnostic_source", "lsp_transport", "lsp_server_host", "lsp_server_port",
    "api_server_host", "api_server_port", "port"]

/-- How variables are read. -/
structure Options where
  /-- A text that may stand in front of names. -/
  front : Text := []
  /-- The text stands in front of the names of settings to make those of their variables. -/
  fronted : Bool := true
  /-- Case matters in the names of variables. -/
  exactCase : Bool := false
  /-- An empty variable counts for nothing. -/
  skipsEmpty : Bool := false
  /-- The value of a variable that counts for null. -/
  nullWord : Option Text := none
  deriving DecidableEq, Repr

namespace Options

/-- A name as it is compared. -/
def key (options : Options) (name : Text) : Text :=
  if options.exactCase then name else name.lower

/-- The name of the variable of a setting, as it is compared. -/
def variableOf (options : Options) (setting : String) : Text :=
  options.key ((if options.fronted then options.front else []) ++ Text.ofString setting)

/-- Variables under their names as they are compared. Of several under one name the last counts. -/
def compared (options : Options) (held : List (Text × Option Text)) : Register (Option Text) :=
  let counted := held.filter fun v => !(options.skipsEmpty && v.2 = some [])
  counted.foldl (fun r v => r.put (options.key v.1) v.2) .empty

/-- The value that a setting has from its variable. -/
def value? (options : Options) (held : Register (Option Text)) (setting : String) :
    Option Json := do
  let value ← (← held.get? (options.variableOf setting))
  return if options.nullWord = some value then .null else .string value

/-- The settings that have a value from their variables. -/
def ofVariables (options : Options) (held : Register (Option Text)) : Register Json :=
  names.foldl (fun r setting =>
    match options.value? held setting with
    | some v => r.put (.ofString setting) v
    | none => r) .empty

/-- A variable cannot stand for something else: it belongs to a setting, or is called like one and
lacks the text in front. -/
def isTaken (options : Options) (name : Text) : Bool :=
  names.any fun setting =>
    options.variableOf setting = name || options.front ≠ [] && Text.ofString setting = name

/-- A name without the text in front. -/
def unfronted (options : Options) (name : Text) : Text :=
  let front := options.key options.front
  if front.isPrefixOf name then name.drop front.length else name

/-- Takes a variable of a file under its name without the text in front, unless it is empty or
cannot stand for something else. -/
def adopt (options : Options) (found : Register Json) : Text × Option Text → Register Json
  | (name, some (c :: value)) =>
    if found.holds name || options.isTaken name then found
    else found.put (options.unfronted name) (.string (c :: value))
  | _ => found

/-- What a file gives. It gives settings by their variables, and then by any other variable whose
name without the text in front is that of a setting. Without such a text there is none. -/
def ofFile (options : Options) (held : List (Text × Option Text)) : Register Json :=
  let held := options.compared held
  let found := options.ofVariables held
  if options.front = [] then found else held.entries.foldl options.adopt found

end Options

end Crontab.Settings
