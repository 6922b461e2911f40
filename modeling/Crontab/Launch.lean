import Crontab.Editor
import Crontab.Settings
import Crontab.Text.Quoted
import Crontab.Text.Uppercase
import Crontab.Web.Response

/-!
# Launching

What starting a service comes to: the records shown, and the server that is then run until it ends.
Nothing is started when the settings or the log level are wrong.
-/

namespace Crontab

/-- The services that can be started. -/
inductive Service where
  /-- The language server. -/
  | editor
  /-- The web service. -/
  | web
  deriving DecidableEq, Repr

/-- A server that is run until it ends. -/
inductive Server where
  /-- The language server on standard input and output. -/
  | stdio
  /-- The language server on a socket. -/
  | tcp (host : Text) (port : Int)
  /-- The language server on a web socket. -/
  | ws (host : Text) (port : Int)
  /-- The web service, with the log level that it is told. -/
  | web (host : Text) (port : Int) (logLevel : Text)
  deriving DecidableEq, Repr

namespace Launch

/-- Why nothing is started. -/
inductive Fault where
  /-- The settings are wrong. -/
  | settings (ps : List Problem)
  /-- There is no such log level. -/
  | unknownLevel (name : Text)
  deriving DecidableEq, Repr

/-- What is said about a log level that does not exist. -/
def unknownLevelMessage (name : Text) : Text :=
  Text.ofString "Unknown level: " ++ Text.Quoted.quote name

/-- A service being started: the server run, with the records before and after it. -/
structure Plan where
  /-- The records before the server runs. -/
  before : List Log.Record
  /-- The server. -/
  server : Server
  /-- The records after the server has ended. -/
  after : List Log.Record
  deriving DecidableEq, Repr

/-- The server of the language server's transport. -/
def editorServer (settings : Settings) : Server :=
  match settings.transport with
  | .stdio => .stdio
  | .tcp => .tcp settings.editorHost settings.editorPort
  | .ws => .ws settings.editorHost settings.editorPort

/-- All that starting a service does, with every record. The web service is told the log level in
lower case. -/
def plan (settings : Settings) : Service → Plan
  | .editor =>
    let transport := settings.transport.name
    { before := [.info .editor (.ofString
        s!"Crontab Language Server v{Editor.version} starting (transport={transport})")]
      server := editorServer settings
      after := [.info .editor (.ofString "Server exited")] }
  | .web =>
    let host := settings.webHost
    let port := settings.effectivePort
    { before := [.info .web (Text.ofString s!"Crontab API Server v{Web.version} starting (host=" ++
        host ++ Text.ofString s!", port={port})")]
      server := .web host port settings.logLevel.lower
      after := [] }

/-- The threshold for records. -/
def threshold (settings : Settings) : Except Fault Log.Level :=
  let name := Text.upper settings.logLevel
  match Log.Level.ofName? name with
  | some level => .ok level
  | none => .error (.unknownLevel name)

/-- Hides the records below a threshold. -/
def Plan.shownAt (plan : Plan) (level : Log.Level) : Plan :=
  { plan with
    before := plan.before.filter (Log.Record.shownAt level)
    after := plan.after.filter (Log.Record.shownAt level) }

/-- What starting a service comes to. -/
def launch (service : Service) (sources : Settings.Sources) : Except Fault Plan :=
  match Settings.load sources with
  | .failed ps => .error (.settings ps)
  | .ok settings => do
    let level ← threshold settings
    return (plan settings service).shownAt level

end Launch

end Crontab
