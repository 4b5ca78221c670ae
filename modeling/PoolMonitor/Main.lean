import PoolMonitor.Config.Load
import PoolMonitor.Config.View
import PoolMonitor.Json.Write
/-!
# Command line

Loads the configuration the way the monitor does at start-up: the defaults, then the file
named by `POOLMIND_CONFIG` (or `pool-minder.toml`), then the `POOLMIND_` variables of the
environment in the order the environment lists them. A configuration that loads and passes
its checks is printed as JSON with the endpoint it names; otherwise the error is printed and
the exit code is 1.
-/

open PoolMonitor

/-- The variables of the process environment, in order, from `/proc/self/environ`. -/
def readEnvironment : IO (List (String × String)) := do
  try
    let bytes ← IO.FS.readBinFile "/proc/self/environ"
    let text := String.fromUTF8? bytes |>.getD ""
    let entries := (text.splitOn "\x00").filter (!·.isEmpty)
    pure (entries.filterMap fun e =>
      match e.splitOn "=" with
      | name :: rest => some (name, "=".intercalate rest)
      | [] => none)
  catch _ => pure []

/-- The text of the configuration file, if it exists. -/
def readConfigFile (path : String) : IO (Option String) := do
  try
    pure (some (← IO.FS.readFile path))
  catch _ => pure none

def main : IO UInt32 := do
  let path := (← IO.getEnv configPathVariable).getD defaultConfigFile
  let text ← readConfigFile path
  let vars ← readEnvironment
  match loadConfig path text vars with
  | .ok c =>
    IO.println c.toValue.render
    match c.controller.host with
    | some host => IO.println ("endpoint " ++ (c.endpoint host).text)
    | none => IO.println ("discovering " ++ c.searchPolicy.hostname)
    pure 0
  | .error e =>
    match e with
    | .settings detail => IO.eprintln ("Error: " ++ e.message ++ ": " ++ detail)
    | .invalid _ => IO.eprintln ("Error: " ++ e.message)
    pure 1
