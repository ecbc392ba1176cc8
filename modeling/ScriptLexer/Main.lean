/-
ScriptLexer.Main — the program on the command line.

Reading files and the clock and writing the outputs happens here; what is
written is decided by the pure reports.
-/
import Mathlib
import ScriptLexer.Command.Report

namespace ScriptLexer.Command

/-- Why the system gave no contents. -/
def readFailure : IO.Error → ReadFailure
  | .noFileOrDirectory .. => .missing
  | .inappropriateType .. => .directory
  | e => .other (toString e)

/-- The contents of a file, or why there are none. -/
def readContents (name : String) : IO (Except ReadFailure ByteArray) := do
  match ← (IO.FS.readBinFile name).toBaseIO with
  | .ok bytes => return .ok bytes
  | .error e => return .error (readFailure e)

/-- How the program is called. -/
def usage : String :=
  "Usage: " ++ programName ++ " [-v|--verbose] [--no-color] <tokens|check|roundtrip> <FILES>..."

/-- What the clock shows, as the log writes it: date and time in UTC, to the
microsecond. -/
def timestamp : IO String := do
  let now := Std.Time.DateTime.ofTimestamp (← Std.Time.Timestamp.now) .UTC
  return now.format "uuuu-MM-dd" ++ "T" ++ now.format "HH:mm:ss.SSSSSS" ++ "Z"

/-- Carry out a request file by file. The result is the exit code. -/
def perform (r : Request) : IO UInt32 := do
  let mut failed := false
  for name in r.files do
    let report := r.reportFile tokenArray name (← readContents name)
    for line in report.err do
      IO.eprint (line.display LogEntry.dated r.color (← timestamp))
    IO.print report.out
    (← IO.getStdout).flush
    failed := failed || report.failed
  return if failed then 1 else 0

end ScriptLexer.Command

open ScriptLexer.Command in
/-- Run the command line. -/
def main (args : List String) : IO UInt32 := do
  let environment : Environment :=
    { verbose? := ← IO.getEnv Environment.verboseName
      noColor? := ← IO.getEnv Environment.noColorName }
  match Invocation.ofArguments args environment with
  | .misuse =>
    IO.eprintln usage
    return 2
  | .version verb? =>
    IO.print (versionLine verb?)
    return 0
  | .run request => perform request
