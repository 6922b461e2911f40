import Crontab.Checked
import Crontab.Diagnostic
import Crontab.Settings.CommandLine
import Crontab.Settings.EnvFile

/-!
# Settings

What can be configured, and where it is configured. A setting is taken from a command line that the
caller hands on, or else from what the caller gives by name, or else from the environment, or else
from an environment file, or else it has its default. Only the value taken is checked.
-/

namespace Crontab

/-- How the language server talks to an editor. -/
inductive Transport where
  /-- Through standard input and output. -/
  | stdio
  /-- Through a socket. -/
  | tcp
  /-- Through a web socket. -/
  | ws
  deriving DecidableEq, Repr

/-- The name of a transport. -/
def Transport.name : Transport → String
  | .stdio => "stdio"
  | .tcp => "tcp"
  | .ws => "ws"

/-- The transport of a given name. -/
def Transport.ofName? (s : Text) : Option Transport :=
  [Transport.stdio, .tcp, .ws].find? fun transport => .ofString transport.name = s

/-- The configuration of both services. -/
structure Settings where
  /-- The threshold for records. -/
  logLevel : Text
  /-- Who signs diagnostics. -/
  diagnosticSource : Text
  /-- How the language server talks to an editor. -/
  transport : Transport
  /-- The host of the language server. -/
  editorHost : Text
  /-- The port of the language server. -/
  editorPort : Int
  /-- The host of the web service. -/
  webHost : Text
  /-- The port of the web service. -/
  webPort : Int
  /-- A port that is handed in from outside and goes before the port of the web service. -/
  port : Option Int
  deriving DecidableEq, Repr

namespace Settings

/-- The port on which the web service listens. -/
def effectivePort (settings : Settings) : Int := settings.port.getD settings.webPort

/-- Where settings come from. -/
structure Sources where
  /-- What a command line gives, latest first. -/
  flags : List (Text × Json) := []
  /-- What the caller gives. -/
  given : List (Text × Json) := []
  /-- The environment. -/
  environment : List (Text × Text) := []
  /-- The text of an environment file. -/
  file : Option Text := none
  /-- How the environment and the file are read. -/
  options : Options := {}

/-- The sources of settings when a caller gives some arguments and an environment file has some
bytes. -/
def Sources.ofArguments (arguments : Arguments) (environment : List (Text × Text))
    (file : Option (List UInt8)) : Except Misuse Sources := do
  match arguments.get? "_build_sources" with
  | some v =>
    Arguments.checkBuilt v
    return {}
  | none =>
    arguments.checkSplit
    let front ← arguments.front?
    let text ← arguments.readFiles environment file none (← arguments.filePaths)
    let flags ← arguments.flags
    if front.isNone then
      arguments.checkFront ((text.map (EnvFile.assignments environment)).getD .empty).entries
    arguments.checkSecrets environment file.isSome
    let options := arguments.options (front.getD [])
    return { flags, given := arguments, environment, file := text, options }

/-- The first value of a name without regard to case. -/
def anyCase? {α : Type} (named : List (Text × α)) (name : String) : Option α :=
  (named.find? fun v => v.1.lower = .ofString name).map Prod.snd

/-- What the environment gives. -/
def ofEnvironment (sources : Sources) : Register Json :=
  let held := sources.environment.map fun v => (v.1, some v.2)
  sources.options.ofVariables (sources.options.compared held)

/-- What an environment file gives. -/
def ofFile (sources : Sources) : Register Json :=
  match sources.file with
  | some text => sources.options.ofFile (EnvFile.assignments sources.environment text).entries
  | none => .empty

/-- The value that a setting is taken from. Of several values that the caller gives under one name
the first counts; of several in any other place, the last. -/
def value? (sources : Sources) : String → Option Json :=
  let environment := ofEnvironment sources
  let file := ofFile sources
  fun name =>
    (Json.lookup? sources.flags name)
      |>.or (anyCase? sources.given name)
      |>.or (environment.get? (.ofString name))
      |>.or (file.get? (.ofString name))

/-- Reads a transport by its exact name. -/
def asTransport : Json → Except Flaw Transport
  | .string s =>
    match Transport.ofName? s with
    | some transport => .ok transport
    | none => .error .notAllowed
  | _ => .error .notAllowed

/-- The settings that some sources give. -/
def load (sources : Sources) : Checked Settings :=
  let value? := value? sources
  let setting {α : Type} (name : String) (default : α) (read : Json → Except Flaw α) :=
    Checked.optional [name] default read (value? name)
  Settings.mk
    <$> setting "log_level" (.ofString "INFO") Json.asText
    <*> setting "diagnostic_source" Diagnostic.defaultSource Json.asText
    <*> setting "lsp_transport" .stdio asTransport
    <*> setting "lsp_server_host" (.ofString "127.0.0.1") Json.asText
    <*> setting "lsp_server_port" 2087 Json.asInteger
    <*> setting "api_server_host" (.ofString "localhost") Json.asText
    <*> setting "api_server_port" 8000 Json.asInteger
    <*> setting "port" none (Json.orNull Json.asInteger)

end Settings

end Crontab
