import RestConformance.Harness
import RestConformance.Program.Connection
import RestConformance.Report.Json
import RestConformance.Report.RunId
import Std.Time.DateTime.Timestamp

/-!
# The program

Runs the registry against the server that the environment names and prints the report in JSON. The
program ends with 0 if every unit passed, with 1 if an assertion failed, and with 2 if a unit could
not be carried out or the settings cannot be used. Log entries go to the standard error.
-/

namespace RestConformance.Program

/-- The content of a file. -/
def fileContent (path : String) : IO (Except FileProblem Bytes) := do
  try return .ok (← IO.FS.readBinFile path).toList
  catch
    | .noFileOrDirectory .. => return .error .missing
    | .inappropriateType .. => return .error .directory
    | error => return .error (.other (toString error))

/-- Prints a log entry, unless it is of use only when looking for a mistake. -/
def printEntry (entry : LogEntry) : IO Unit := do
  if entry.level != .debug then
    let fields := entry.fields.map fun field => " " ++ field.1 ++ "=" ++ field.2
    IO.eprintln (entry.level.name ++ " " ++ entry.message ++ String.join fields)

/-- What a run takes from the system. -/
def surroundings : Surroundings IO where
  fileContent := fileContent
  transport := transport
  log := printEntry
  clock := do return .ofNat (← IO.monoMsNow)

/-- What a run is known by that starts now. -/
def stampNow : IO RunStamp := do
  let nanos := (← Std.Time.Timestamp.now).toNanosecondsSinceUnixEpoch.val
  let random := (← IO.getRandomBytes 10).toList.foldl (fun n b => 256 * n + b.toNat) 0
  return ⟨RunId.ofTime (nanos / 1000000).toNat random,
    ⟨nanos.fdiv Instant.second, (nanos.fmod Instant.second).toNat⟩⟩

/-- Runs the registry with the settings of some variables, and gives the exit code. -/
def run (lookup : String → Option String) : IO UInt8 := do
  match Settings.read lookup with
  | .error error =>
    printEntry ⟨.error, "invalid configuration: " ++ error.message, []⟩
    return 2
  | .ok settings =>
    printEntry ⟨.info, "Starting restprobe v0.1.0", []⟩
    match ← Harness.run surroundings settings (← stampNow) with
    | .returned report =>
      IO.println report.toJson.indented
      return report.exitCode
    | .failed error =>
      printEntry ⟨.error, error.message, []⟩
      return 2
    | .crashed crash =>
      printEntry ⟨.error, crash.message, []⟩
      return 101

/-- The variables of the environment that settings are read from. -/
def environment : IO (List (String × String)) := do
  let known : List Settings.Variable := [.baseUrl, .user, .systemUser, .password, .bearerToken,
    .bearerTokenFile, .timeout, .suite]
  known.filterMapM fun variableName => do
    return (← IO.getEnv variableName.name).map (variableName.name, ·)

end RestConformance.Program

/-- Runs the program. -/
def main : IO UInt32 := do
  let values ← RestConformance.Program.environment
  let code ← RestConformance.Program.run fun name => List.lookup name values
  return code.toUInt32
