import AsmExplorer.Text.Blank

/-!
# The outcome of a program

What a finished program leaves: its exit code, absent if a signal ended it, and what it wrote.
-/

namespace AsmExplorer

/-- The outcome of a program. -/
structure ProgramOutput where
  /-- The exit code. -/
  status : Option Int
  /-- What it wrote to its output. -/
  stdout : String
  /-- What it wrote to its error output. -/
  stderr : String
deriving DecidableEq, Inhabited

namespace ProgramOutput

/-- Whether the program ended well. -/
def success (out : ProgramOutput) : Bool :=
  out.status == some 0

/-- What the program said: first the errors, then the output, without trailing blanks. -/
def diagnostics (out : ProgramOutput) : String :=
  let errors := Text.trimEnd out.stderr.toList
  let output := Text.trimEnd out.stdout.toList
  if errors.isEmpty then String.ofList output
  else if output.isEmpty then String.ofList errors
  else String.ofList (errors ++ '\n' :: output)

end ProgramOutput

end AsmExplorer
