import Crontab.Launch

/-!
# Command line

Starts a service from the environment and the environment file of the working directory. The first
argument `api` chooses the web service; otherwise the language server is meant. The server to run is
written to standard output, and records and errors go to standard error.
-/

namespace Crontab.Main

/-- The environment variables that settings are taken from. -/
def variableNames : List String :=
  Settings.names.map (fun name => String.ofList (name.toList.map Char.toUpper)) ++ Settings.names

/-- A server as a line of text. -/
def describe : Server → String
  | .stdio => "stdio"
  | .tcp host port => s!"tcp {host.shown} {port}"
  | .ws host port => s!"ws {host.shown} {port}"
  | .web host port logLevel => s!"web {host.shown} {port} {logLevel.shown}"

/-- A fault as lines of text. -/
def explain : Launch.Fault → List String
  | .settings ps => ps.map fun p => ".".intercalate p.place ++ ": " ++ p.flaw.code
  | .unknownLevel name => [(Launch.unknownLevelMessage name).shown]

/-- The sources of settings for this process. -/
def sources : IO Settings.Sources := do
  let environment ← variableNames.filterMapM fun name => do
    return (← IO.getEnv name).map fun value => (.ofString name, .ofString value)
  let file ← try some <$> IO.FS.readFile ".env" catch _ => pure none
  return { environment, file := file.map Text.ofString }

end Crontab.Main

/-- Starts the service that the arguments choose. -/
def main (args : List String) : IO UInt32 := do
  let service : Crontab.Service := if args.head? = some "api" then .web else .editor
  match Crontab.Launch.launch service (← Crontab.Main.sources) with
  | .error fault =>
    for line in Crontab.Main.explain fault do IO.eprintln line
    return 1
  | .ok plan =>
    for record in plan.before do IO.eprintln record.line.shown
    IO.println (Crontab.Main.describe plan.server)
    for record in plan.after do IO.eprintln record.line.shown
    return 0
