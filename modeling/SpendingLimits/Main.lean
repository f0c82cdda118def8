import SpendingLimits.CommandLine.Program
import Std.Time.DateTime.Timestamp

namespace SpendingLimits.CommandLine

/-- Reads a file, with the fault that the program reports if that fails. -/
def readFile (path : String) : IO (Except ReadFault String) := do
  try return .ok (← IO.FS.readFile path)
  catch
    | .noFileOrDirectory .. => return .error .missing
    | .inappropriateType none .. => return .error .isFolder
    | .inappropriateType (some _) .. => return .error .notFolder
    | .permissionDenied .. => return .error .denied
    | .userError _ => return .error .notText
    | .invalidArgument file code why =>
      if code = 36 ∨ code = 0 - 36 then return .error .tooLong
      else return .error (.other (toString (IO.Error.invalidArgument file code why)))
    | e => return .error (.other (toString e))

/-- The variables of these names that there are. -/
def environmentOf (names : List String) : IO Environment := do
  let found ← names.filterMapM fun name => do return (← IO.getEnv name).map (name, ·)
  return Environment.ofList found

/-- The current time. -/
def currentInstant : IO Time.Instant := do
  let now ← Std.Time.Timestamp.now
  let nanos := now.toNanosecondsSinceUnixEpoch.val
  match Time.Instant.ofParts? (nanos / 10 ^ (9 : Nat)) (nanos % 10 ^ (9 : Nat)).toNat with
  | some t => return t
  | none => throw (IO.userError "the clock is out of range")

/-- The file of variables: in the current folder or in the nearest one above that has one. -/
def readVariableFile? : IO (Option String) := do
  let mut path := ".env"
  for _ in (← IO.currentDir).components do
    match ← readFile path with
    | .error .missing | .error .isFolder => path := "../" ++ path
    | found => return found.toOption
  return none

/-- Runs the program on what it finds around it and returns its exit status. -/
def runMain (args : List String) : IO UInt32 := do
  let variableFile ← readVariableFile?
  let names := (variableFile.map namesIn).getD []
  let first : Surroundings :=
    { environment := ← environmentOf ("LIMITS_RULES_PATH" :: "LIMITS_LEDGER_PATH" :: names)
      variableFile
      read := fun _ => .error .missing
      now := ← currentInstant }
  -- a run reads nothing but these paths, and they do not depend on what is read
  let contents ← (pathsOf args first).mapM fun path => do return (path, ← readFile path)
  let outcome := run args { first with
    read := fun path => (contents.lookup path).getD (.error .missing) }
  match outcome with
  | .finished _ output => IO.print output
  | .failed why => IO.eprintln ("Error: " ++ why.message)
  | .rejected =>
    IO.eprintln "Usage: limits [OPTIONS] <COMMAND>\n\nFor more information, try '--help'."
  | .aborted => IO.eprintln "A variable cannot have its value, or a window has no beginning"
  return outcome.exitStatus.toUInt32

end SpendingLimits.CommandLine

def main (args : List String) : IO UInt32 := SpendingLimits.CommandLine.runMain args
