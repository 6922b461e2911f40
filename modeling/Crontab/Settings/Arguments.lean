import Crontab.Settings.Location
import Crontab.Settings.Options
import Crontab.Text.Charset

/-!
# Arguments of a caller

A caller gives settings by name. Among them it can give arguments that say how the other settings
are read: the names of variables, the environment file and its charset, the words of a command line.
Such an argument can be of no use, and the first that is decides how reading fails.
-/

namespace Crontab.Settings

/-- The arguments of a caller. -/
abbrev Arguments := List (Text × Json)

namespace Arguments

/-- An argument that is there and not null. -/
def get? (arguments : Arguments) (name : String) : Option Json :=
  match Json.lookup? arguments name with
  | some .null | none => none
  | some v => some v

/-- An argument is one that says yes. -/
def affirms (arguments : Arguments) (name : String) : Bool := (arguments.get? name).any Json.saysYes

/-- A bound on the splitting of names, which no setting needs, has to be a number or say no. -/
def checkSplit (arguments : Arguments) : Except Misuse Unit :=
  match arguments.get? "_env_nested_max_split" with
  | some v => if v.saysYes && !v.isNumber then .error .kind else .ok ()
  | none => .ok ()

/-- The text in front of names. There is none if it is given by something that holds several values,
which is refused once a name is made with it. -/
def front? (arguments : Arguments) : Except Misuse (Option Text) :=
  match arguments.get? "_env_prefix" with
  | none => .ok (some [])
  | some v => if v.isNumber then .error .kind else .ok v.text?

/-- The text in front of names belongs to those of variables. -/
def isFronted (arguments : Arguments) : Bool :=
  match arguments.get? "_env_prefix_target" with
  | some v => ["variable", "all"].any fun target => v.text? = some (.ofString target)
  | none => true

/-- Case matters in names. -/
def exactCase (arguments : Arguments) : Bool := arguments.affirms "_case_sensitive"

/-- How variables are read, with some text in front of names. -/
def options (arguments : Arguments) (front : Text) : Options where
  front
  fronted := arguments.isFronted
  exactCase := arguments.exactCase
  skipsEmpty := arguments.affirms "_env_ignore_empty"
  nullWord := (arguments.get? "_env_parse_none_str").bind Json.text?

/-- The paths that a value gives, each of which should be a text. -/
def pathsOf (v : Json) : Except Misuse (List Json) :=
  match v, v.members? with
  | .string _, _ => .ok [v]
  | _, some vs => .ok vs
  | _, none => .error .kind

/-- The paths to environment files. -/
def filePaths (arguments : Arguments) : Except Misuse (List Json) :=
  match Json.lookup? arguments "_env_file" with
  | none => .ok [.word Location.fileName]
  | some .null => .ok []
  | some v => pathsOf v

/-- The text of an environment file. -/
def decoded (arguments : Arguments) (bytes : List UInt8) : Except Misuse Text :=
  let read (charset : Text.Charset) : Except Misuse Text :=
    (charset.decode bytes).mapError Misuse.ofReading
  match arguments.get? "_env_file_encoding" with
  | none => read (.utf8 false)
  | some (.string name) =>
    if !name.isSpelled then .error .unspelledName
    else if name.contains '\x00' then .error .cutName
    else
      match Text.Charset.ofName? name with
      | some charset => read charset
      | none => .error .charset
  | some _ => .error .kind

/-- How far up a file can be looked for. -/
def maxUp : Int := Int.pow 2 63 - 1

/-- A file that is not there may be looked for in a number of directories further up. It is in none
of them. -/
def checkDepth (arguments : Arguments) : Except Misuse Unit :=
  match arguments.get? "_env_file_depth" with
  | some (.int n) => if maxUp < n then .error .farUp else .ok ()
  | some v => if v.isNumber then .ok () else .error .kind
  | none => .ok ()

/-- Follows paths to environment files in order, and reads the one that is there. Any other file
that can be read gives nothing. -/
def readFiles (arguments : Arguments) (environment : List (Text × Text))
    (file : Option (List UInt8)) (read : Option Text) : List Json → Except Misuse (Option Text)
  | [] => .ok read
  | .string path :: rest => do
    match ← Location.follow environment path, file with
    | .environmentFile, some bytes =>
      arguments.readFiles environment file (some (← arguments.decoded bytes)) rest
    | .file true, _ =>
      let _ ← arguments.decoded []
      arguments.readFiles environment file read rest
    | _, _ =>
      arguments.checkDepth
      arguments.readFiles environment file read rest
  | _ :: _ => .error .kind

/-- A directory of further settings has to be one, if it is there. Those that there are give no
settings. -/
def checkSecrets (arguments : Arguments) (environment : List (Text × Text)) (hasFile : Bool) :
    Except Misuse Unit :=
  match arguments.get? "_secrets_dir" with
  | none => .ok ()
  | some v => do
    let paths ← pathsOf v
    let goals ← paths.mapM fun path =>
      match path with
      | .string path => Location.follow environment path
      | _ => .error .kind
    let isFile : Location.Goal → Bool
      | .environmentFile => hasFile
      | .file _ => true
      | _ => false
    if goals.any isFile then .error .refused else .ok ()

/-- Names cannot have in front what holds several values. This shows when a name is made of it, when
it should be put in lower case, or when a variable in a file might start with it. -/
def checkFront (arguments : Arguments) (file : List (Text × Option Text)) : Except Misuse Unit :=
  let isOther : Text × Option Text → Bool
    | (name, some (_ :: _)) => !names.any fun setting => .ofString setting = name
    | _ => false
  if arguments.isFronted then .error .refused
  else if !arguments.exactCase then .error .operation
  else if file.any isOther then .error .kind
  else .ok ()

/-- The two parts of a pair. -/
def pairOf (v : Json) : Except Misuse (Json × Json) :=
  let parts := match v with
    | .string s => some (s.map fun c => Json.string [c])
    | _ => v.members?
  match parts with
  | some [a, b] => .ok (a, b)
  | some parts => .error (.unpaired parts.length)
  | none => .error .kind

/-- Sources may be given ready-made, in a pair with what the caller gives. Only none at all can be
given. -/
def checkBuilt (v : Json) : Except Misuse Unit := do
  let (sources, _) ← pairOf v
  if sources.saysYes then .error .kind else .ok ()

end Arguments

end Crontab.Settings
