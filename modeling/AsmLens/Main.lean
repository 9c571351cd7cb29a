import AsmLens.Command.Run
import AsmLens.Source.Tree

/-!
# The command

Reads the arguments and the files that they name, and writes what the run leaves behind. The
events of a run go to the error stream, those for debugging left out.
-/
namespace AsmLens.Command

/-- What a path of the file system leads to. -/
def sourceAt (path : Text) : IO Source := do
  try
    return .file (← IO.FS.readBinFile (String.ofList path))
  catch error =>
    let words := (toString error).toList
    return .failing ⟨words, words⟩

/-- Writes what a run leaves behind and returns its exit code. -/
def Outcome.write (outcome : Outcome) : IO UInt32 := do
  for line in outcome.shownLines do
    IO.eprintln (String.ofList line)
  IO.print (String.ofList outcome.stdout)
  unless outcome.stderr.isEmpty do
    IO.eprintln (String.ofList outcome.stderr)
  return outcome.exit

/-- Does what the arguments ask for (`main`). -/
def execute (arguments : List Text) : IO UInt32 := do
  match parseArguments arguments with
  | .error stop => stop.outcome.write
  | .ok options =>
    let files ← options.paths.mapM fun path => do return (path, ← sourceAt path)
    let sources := fun path => (files.lookup path).getD .missing
    (run sources options).write

end AsmLens.Command

/-- The command, whose arguments are those of the process. -/
def main (arguments : List String) : IO UInt32 :=
  AsmLens.Command.execute (arguments.map String.toList)
