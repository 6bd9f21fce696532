import DocSql.CommandLine.Run
import Std.Time.DateTime.Timestamp

/-!
The program: gathers the files, variables and the time that a command line
needs, runs it and prints its report.
-/
namespace DocSql.CommandLine

def readPath (path : String) : IO (Except FileFault String) := do
  try
    return .ok (← IO.FS.readFile path)
  catch
    | .noFileOrDirectory .. => return .error .missing
    | _ => return .error .unreadable

def readVariables (names : List String) : IO Environment := do
  let found ← names.mapM fun name => return (← IO.getEnv name).map fun value => (name, value)
  return found.filterMap id

def readTime : IO Timestamp := do
  let nanos := (← Std.Time.Timestamp.now).toNanosecondsSinceUnixEpoch.val
  return ⟨nanos / Timestamp.leapNanos, (nanos % Timestamp.leapNanos).toNat⟩

def gather (invocation : Invocation) : IO Surroundings := do
  let files ← invocation.paths.mapM fun path => return (path, ← readPath path)
  let file (path : String) : Except FileFault String :=
    ((files.find? (·.1 == path)).map (·.2)).getD (.error .missing)
  let environment ← readVariables (Invocation.variableNames (file invocation.envPath).toOption)
  return { file, environment, now := ← readTime }

def deliver (report : Report) : IO UInt32 := do
  (← IO.getStdout).putStr report.output
  (← IO.getStderr).putStr report.diagnostic
  return report.code.toUInt32

end DocSql.CommandLine

open DocSql.CommandLine

def main (args : List String) : IO UInt32 := do
  match request args with
  | .run invocation => deliver (invocation.report (← gather invocation))
  | .help topic => deliver topic.report
  | .mistake => deliver mistakeReport
