import TabularQuery.CommandLine.Outcome
import TabularQuery.Grid.Boxes

/-! The program. It reads the file that the arguments name and prints the outcome. -/

namespace TabularQuery

/-- A path that cannot be followed leads nowhere. A directory is found only when its
content is asked for, and then the failure names no file. -/
def Source.ofFile (path : String) : IO Source := do
  try
    let content ← IO.FS.readBinFile path
    return .content content.toList
  catch failure =>
    match failure with
    | .noFileOrDirectory _ _ _ | .invalidArgument _ _ _ | .inappropriateType (some _) _ _ =>
      return .missing
    | .inappropriateType none _ _ => return .directory
    | failure => return .unreadable failure.toString

end TabularQuery

open TabularQuery

def main (arguments : List String) : IO UInt32 := do
  let source ← match CommandLine.parse arguments with
    | .ok (.query options) => Source.ofFile options.path
    | _ => pure .missing
  let outcome := CommandLine.outcome Grid.boxes arguments fun _ => source
  IO.print outcome.output
  IO.eprint outcome.diagnostics
  return outcome.code.toUInt32
