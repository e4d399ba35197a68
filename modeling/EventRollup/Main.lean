import EventRollup.CommandLine
import Std.Time.DateTime.Timestamp

open EventRollup

def currentInstant : IO Instant := do
  let t ← Std.Time.Timestamp.now
  return (Instant.ofMillis? t.toMillisecondsSinceUnixEpoch.val).getD .epoch

def programName : IO String := do
  return ((toString (← IO.appPath)).splitOn "/").getLastD ""

def variablesSet (program : String) : IO (List (String × String)) := do
  let sections := [("COMPILER", ["ALLOWED_NAMESPACES", "TIMESTAMP_FIELD", "COUNT_MEASURE",
      "DATES_AS_STRINGS", "DEFAULT_TIMESTAMP_FIELD"]),
    ("DEMO", ["NAMESPACE", "INSERT_INTERVAL_MS", "QUERY_INTERVAL_MS", "RANGE"])]
  let names := sections.flatMap fun (title, keys) =>
    title :: keys.map fun key => title ++ "__" ++ key
  names.filterMapM fun name => do
    let name := program.toUpper ++ "_" ++ name
    return (← IO.getEnv name).map (name, ·)

def readText? (file : String) : IO (Option String) := do
  try
    return some (← IO.FS.readFile file)
  catch _ =>
    return none

def main (args : List String) : IO UInt32 := do
  let command := CommandLine.Command.parse? args
  let input ← match command with
    | some (.plan _ none) => (← IO.getStdin).readToEnd
    | _ => pure ""
  let text? ← match command with
    | some (.plan _ (some file)) => readText? file
    | _ => pure none
  let program ← programName
  let outcome := CommandLine.run
    ⟨program, ← variablesSet program, input, fun _ => text?, ← currentInstant⟩ args
  (← IO.getStdout).putStr outcome.out
  (← IO.getStderr).putStr outcome.err
  return outcome.code.toUInt32
