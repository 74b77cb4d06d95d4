import AsmExplorer.Machine.Files

/-!
# Processes

A process is given arguments, an environment, a working directory, an input and the file system; it
leaves the file system as it changed it, what it wrote, and how it ended.  A `Tool` is a program
seen as the function from the one to the other.
-/

namespace AsmExplorer

/-- Where a process writes. -/
inductive Stream where
  /-- The output. -/
  | output
  /-- The error output. -/
  | errors
deriving DecidableEq, Inhabited

/-- What a process is given. -/
structure Process where
  /-- The name by which the program was called. -/
  name : String
  /-- The arguments. -/
  args : List String
  /-- The environment variables. -/
  env : List (String × String)
  /-- The working directory. -/
  cwd : Names
  /-- The bytes of the input. -/
  stdin : List UInt8
  /-- The file system. -/
  files : FileTree
deriving Inhabited

/-- How a process ends. -/
inductive Ending where
  /-- With a code. -/
  | exited (code : Nat)
  /-- By a signal. -/
  | killed
deriving DecidableEq, Inhabited

/-- What a process leaves. -/
structure Completion where
  /-- The file system. -/
  files : FileTree
  /-- What it wrote, in order. -/
  written : List (Stream × List UInt8)
  /-- The input that it did not read. -/
  unread : List UInt8
  /-- How it ended. -/
  ending : Ending
deriving Inhabited

/-- A program. -/
abbrev Tool := Process → Completion

namespace Completion

/-- The bytes written to a stream. -/
def bytes (c : Completion) (stream : Stream) : List UInt8 :=
  (c.written.filter (·.1 == stream)).flatMap (·.2)

/-- Writes a text to the output. -/
def say (c : Completion) (text : List Char) : Completion :=
  { c with written := c.written ++ [(.output, Text.utf8 text)] }

/-- Writes a line to the error output, and ends with a code. -/
def complain (c : Completion) (code : Nat) (message : String) : Completion :=
  { c with
    written := c.written ++ [(.errors, Text.utf8 (message ++ "\n").toList)]
    ending := .exited code }

end Completion

namespace Process

/-- Ends well, having done nothing and read the whole input or none of it. -/
def complete (p : Process) (reads : Bool) : Completion :=
  { files := p.files, written := [], unread := if reads then [] else p.stdin, ending := .exited 0 }

/-- Whether an operand stands for the input. -/
def isInput (name : String) : Bool :=
  name == "-" || name == "/dev/stdin"

/-- The bytes of an operand: a file, or the input. -/
def operand (p : Process) (name : String) : Except IoFault (List UInt8) :=
  if isInput name then .ok p.stdin else p.files.read p.cwd (.ofText name)

end Process

/-- The lines of a text with the information whether a line end follows. -/
def textLines (s : List Char) : List (List Char × Bool) :=
  let parts := s.splitOn '\n'
  let ended := parts.dropLast.map (·, true)
  match parts.getLast? with
  | some last => if last.isEmpty then ended else ended ++ [(last, false)]
  | none => ended

end AsmExplorer
