import PageServer.Settings.Sources
import PageServer.Service.Startup
/-! The command. It takes the settings from the environment and says how the server is launched by
them, or what is wrong with them. -/
namespace PageServer.Command

open Settings

/-- The names under which the environment is asked for a field. -/
def environmentNames (f : Field) : List String :=
  [String.ofList (f.name.toList.map Char.toUpper), f.name]

def launchLine (launch : Launch) : String :=
  launch.target ++ " at http://" ++ launch.host ++ ":" ++ toString launch.port ++
    ", log level " ++ launch.logLevel

def rejectionLines (r : Rejection) : List String :=
  r.message :: r.faults.map fun fault =>
    "  " ++ ".".intercalate fault.place ++ ": " ++ fault.complaint.message

def environment : IO (List (String × String)) := do
  let names := Field.all.flatMap environmentNames
  let found ← names.mapM fun name => do
    let value ← IO.getEnv name
    return value.map fun value => (name, value)
  return found.filterMap id

end PageServer.Command

open PageServer in
def main : IO UInt32 := do
  let environment ← Command.environment
  match Settings.resolve { environment := environment } with
  | .ok resolved =>
      IO.println (Command.launchLine (Launch.ofSettings resolved.settings))
      return 0
  | .error rejection =>
      for line in Command.rejectionLines rejection do
        IO.eprintln line
      return 1
