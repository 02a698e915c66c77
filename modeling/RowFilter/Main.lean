import RowFilter.CommandLine.Run
import RowFilter.Pattern.Matching

/-! # The command-line program -/

namespace RowFilter.CommandLine

def diskAccess : FileAccess IO where
  read path := do
    try return .ok (← IO.FS.readFile path)
    catch e => return .error (toString e)
  write path text := do
    try
      IO.FS.writeFile path text
      return .ok ()
    catch e => return .error (toString e)

def helpText : String :=
  "Validate, compile and migrate filter documents\n\n" ++
  "Usage: row-filter --schema FILE [--config FILE] [--dialect TAG] [--format json|pretty] COMMAND\n\n" ++
  "Commands:\n" ++
  "  validate FILTER   check a filter against the schema\n" ++
  "  compile FILTER    migrate, validate and compile a filter, and run it over rows\n" ++
  "  migrate FILTER    bring a stored filter up to the current version\n" ++
  "  sanitize FILTER   remove conditions that the schema does not support"

end RowFilter.CommandLine

open RowFilter.CommandLine in
def main (args : List String) : IO UInt32 := do
  let outcome ← run diskAccess args
  match outcome with
  | .printed text _ => IO.println text
  | .failed message => IO.eprintln ("Error: " ++ message)
  | .refused .information => IO.println helpText
  | .refused .usage => IO.eprintln helpText
  return outcome.exitCode
