import SeriesQuery.CommandLine.Run
import Std.Time.DateTime.Timestamp

/-!
# The program

`main` runs a command on the machine's own files, environment and clock.
-/

namespace SeriesQuery

/-- The variables that are looked at. -/
def knownVariables : List String :=
  ["TALLY_DEDUP_SCANS", "TALLY_MAX_SCANS", "TALLY_GROUP_EMPTY", "TALLY_LOG_LEVEL",
    "TALLY_LOG_FORMAT", "XDG_CONFIG_HOME", "HOME"]

/-- The error number of directories that are not expected. -/
def directoryNumber : UInt32 := 21

def FileError.ofSystem : IO.Error → FileError
  | .noFileOrDirectory _ _ _ => .notFound
  | .permissionDenied _ _ _ => .accessDenied
  | .inappropriateType _ number _ =>
    if number = directoryNumber then .isDirectory else .notDirectory
  | e => .other e.toString

def readTextFile (path : String) : IO (Except FileError String) := do
  try
    let bytes ← IO.FS.readBinFile path
    match String.fromUTF8? bytes with
    | some s => return .ok s
    | none => return .error .notText
  catch e => return .error (.ofSystem e)

def writeTextFile (path content : String) : IO (Except FileError Unit) := do
  try
    IO.FS.writeFile path content
    return .ok ()
  catch e => return .error (.ofSystem e)

def machine : IO (Host IO) := do
  let known ← knownVariables.mapM fun name => do return (name, ← IO.getEnv name)
  return {
    environment := fun name => (known.lookup name).join
    readText := readTextFile
    writeText := writeTextFile
    now := do return (← Std.Time.Timestamp.now).toMillisecondsSinceUnixEpoch.val }

end SeriesQuery

open SeriesQuery CommandLine in
def main (args : List String) : IO UInt32 := do
  let outcome ← run (← machine) args
  IO.print outcome.output
  for complaint in outcome.complaint? do
    IO.eprintln s!"Error: {complaint}"
  return outcome.exitCode.toUInt32
