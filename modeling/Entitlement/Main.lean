import Entitlement.Command.Run
import Std.Time.Zoned

/-!
# The program

Reads what the command line needs from outside, runs it, and prints what came of it.
-/

namespace Entitlement.Command

/-- Today's date by the system's clock, in its time zone if that is known. -/
def today : IO Date := do
  let date ←
    try
      Std.Time.PlainDate.now
    catch _ =>
      let now := Std.Time.WallTime.ofTimestamp (← Std.Time.Timestamp.now) .zero
      pure (Std.Time.PlainDateTime.ofWallTime now).date
  match Date.of? date.year.toInt date.month.val.toNat date.day.val.toNat with
  | some date => return date
  | none => throw (IO.userError "the clock shows no date")

/-- What is found at a path. -/
def find (path : String) : IO FoundFile := do
  try
    let content ← IO.FS.readBinFile path
    return .file content.toList
  catch
    | .noFileOrDirectory _ _ _ => return .missing
    | .permissionDenied _ _ _ => return .unreadable "Permission denied (os error 13)"
    | _ => return .directory

/-- A fault in words. Where the text goes wrong is not told. -/
def faultWords : Json.Fault → String
  | .truncated => "the text ends too early"
  | .malformed => "no value is written like this"

/-- Runs the program on a command line, and returns its exit code. -/
def runInPlace (args : List String) : IO UInt32 := do
  let values ← variableNames.filterMapM fun name => do
    return (← IO.getEnv name).map fun value => (name, value)
  let paths := ((Request.ofArgs? args).map Request.paths).getD []
  let found ← paths.mapM fun path => do
    return (path, ← find path)
  let surroundings : Surroundings :=
    { env := fun name => values.lookup name
      files := fun path => (found.lookup path).getD .missing
      wording := fun fault _ => faultWords fault
      now := ← today }
  let result := run surroundings args
  IO.print result.output
  IO.eprint result.ending.complaint
  return UInt32.ofNat result.ending.code

end Entitlement.Command

/-- The program. -/
def main (args : List String) : IO UInt32 :=
  Entitlement.Command.runInPlace args
