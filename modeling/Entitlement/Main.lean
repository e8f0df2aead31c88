import Entitlement.Command.Startup

/-!
# The program

* `main` : reads the command line, the environment and the configuration, and reports how the
  service would run, or why it cannot.
-/

namespace Entitlement

/-- The settings of the environment that have a meaning. -/
def settingNames : List String :=
  Choice.all.map Choice.setting ++
    ["AWS_REGION", "AWS_ACCESS_KEY_ID", "AWS_SECRET_ACCESS_KEY", "AWS_SESSION_TOKEN"]

def readEnvironment : IO Environment := do
  let settings ← settingNames.filterMapM fun name => do
    return (← IO.getEnv name).map fun value => (name, value)
  return ⟨settings⟩

/-- The bytes of a file, if it can be read. -/
def readBytes (path : String) : IO (Option (List UInt8)) := do
  try
    return some (← IO.FS.readBinFile path).toList
  catch _ => return none

def run (args : List String) : IO UInt32 := do
  let env ← readEnvironment
  match CommandLine.parse args env with
  | .error usage =>
    if usage.code = 0 then IO.println usage.text else IO.eprintln usage.text
    return usage.code
  | .ok line =>
    match Startup.prepare (← readBytes line.config) env ⟨0, 0⟩ ⟨[], []⟩ with
    | .error e =>
      IO.eprintln ("Error: " ++ e.message)
      return 1
    | .ok s =>
      s.config.summary.forM fun l => IO.println l
      IO.println ("Starting HTTP server on " ++ line.address s.config)
      return 0

end Entitlement

def main (args : List String) : IO UInt32 := Entitlement.run args
