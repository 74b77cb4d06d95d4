import AsmExplorer.Machine.Glob
import AsmExplorer.Machine.Process
import AsmExplorer.Machine.Shell.Syntax
import AsmExplorer.Text.Word

/-!
# The state of a running script

What a script can change: files, variables, arguments, its input, and where its output goes.  A
command is a function on this state; `State.flow` tells whether the next command runs.
-/

namespace AsmExplorer.Shell

/-- How a script goes on after a command. -/
inductive Flow where
  /-- With the next command. -/
  | next
  /-- It ends. -/
  | exit
  /-- It is killed. -/
  | killed
  /-- After the end of so many loops. -/
  | leave (loops : Nat)
  /-- With the next round of the loop that is so many loops out. -/
  | again (loops : Nat)
  /-- After the call of the command that is being run by name. -/
  | back
deriving DecidableEq, Inhabited

/-- Where something is written. -/
inductive Sink where
  /-- To a stream of the process. -/
  | stream (s : Stream)
  /-- To the end of a file. -/
  | file (names : Names)
  /-- To a text that the script reads. -/
  | pipe (n : Nat)
  /-- Nowhere. -/
  | void
deriving DecidableEq, Inhabited

/-- A variable. -/
structure Variable where
  /-- The value. -/
  value : List Char
  /-- Whether programs see it. -/
  exported : Bool := false
deriving DecidableEq, Inhabited

/-- The state of a script. -/
structure State where
  /-- The file system. -/
  files : FileTree
  /-- The working directory. -/
  cwd : Names
  /-- The input that is left. -/
  input : List UInt8
  /-- The name of the script. -/
  name : String
  /-- The arguments. -/
  params : List (List Char)
  /-- The variables. -/
  vars : List (String × Variable)
  /-- The commands that are run by name. -/
  functions : List (String × Command) := []
  /-- What the variables were that belong to the command being run by name, the latest first. -/
  hidden : List (String × Option Variable) := []
  /-- The code of the last command. -/
  status : Nat := 0
  /-- Where the numbers of outputs lead. -/
  sinks : List (Nat × Sink) := [(1, .stream .output), (2, .stream .errors)]
  /-- What was written to pipes, the last byte first. -/
  pipes : List (List UInt8) := []
  /-- What was written, the latest first. -/
  written : List (Stream × List UInt8) := []
  /-- How the script goes on. -/
  flow : Flow := .next
  /-- The letters of the options that are set. -/
  options : List Char := []
  /-- Whether something hangs on the failure of the command that is being run. -/
  watched : Bool := false
  /-- What runs when the script has ended. -/
  atExit : Option (List Char) := none
deriving Inhabited

namespace State

/-! ### Output -/

/-- Writes bytes where a number leads. -/
def put (s : State) (number : Nat) (bytes : List UInt8) : State :=
  match s.sinks.lookup number with
  | some (.stream stream) => { s with written := (stream, bytes) :: s.written }
  | some (.file names) =>
    match s.files.find? names with
    | some (.file old) => { s with files := s.files.insert names (.file (old ++ bytes)) }
    | _ => s
  | some (.pipe n) => { s with pipes := s.pipes.modify n fun pipe => bytes.reverse ++ pipe }
  | some .void => s
  | none => s

/-- Lets a number lead elsewhere. -/
def redirect (s : State) (number : Nat) (sink : Sink) : State :=
  { s with sinks := (number, sink) :: s.sinks.filter (·.1 != number) }

/-- Sets the code of the last command. -/
def withStatus (s : State) (status : Nat) : State :=
  { s with status }

/-- Writes a message of the shell and sets the code. -/
def complain (s : State) (status : Nat) (message : String) : State :=
  (s.put 2 (Text.utf8 (s.name ++ ": 1: " ++ message ++ "\n").toList)).withStatus status

/-- Ends the script with a message. -/
def fail (s : State) (status : Nat) (message : String) : State :=
  { s.complain status message with flow := .exit }

/-! ### Variables -/

/-- The value of a variable. -/
def get? (s : State) (name : String) : Option (List Char) :=
  (s.vars.lookup name).map (·.value)

/-- Sets a variable. -/
def set (s : State) (name : String) (value : List Char) : State :=
  let exported := (s.vars.lookup name).any (·.exported)
  { s with vars := (name, { value, exported }) :: s.vars.filter (·.1 != name) }

/-- Lets programs see a variable. -/
def publish (s : State) (name : String) : State :=
  let value := (s.get? name).getD []
  { s with vars := (name, { value, exported := true }) :: s.vars.filter (·.1 != name) }

/-- Removes a variable. -/
def unset (s : State) (name : String) : State :=
  { s with vars := s.vars.filter (·.1 != name) }

/-- Lets a variable belong to the command that is being run by name. -/
def hide (s : State) (name : String) : State :=
  { s with hidden := (name, s.vars.lookup name) :: s.hidden }

/-- Gives the hidden variables back what they were. -/
def unhide (s : State) : State :=
  s.hidden.foldl
    (fun s (name, old) =>
      match old with
      | some v => { s with vars := (name, v) :: s.vars.filter (·.1 != name) }
      | none => s.unset name)
    { s with hidden := [] }

/-- The variables that programs see. -/
def environment (s : State) : List (String × String) :=
  s.vars.filterMap fun (name, v) => if v.exported then some (name, String.ofList v.value) else none

/-- The number by which a script calls its own process. -/
def ownNumber : List Char := "4242".toList

/-- The value of a parameter: a variable, an argument, or a sign. -/
def param? (s : State) (name : String) : Option (List Char) :=
  match name with
  | "#" => some (Text.decimal s.params.length)
  | "?" => some (Text.decimal s.status)
  | "$" => some ownNumber
  | "-" => some []
  | "!" => none
  | "0" => some s.name.toList
  | name =>
    match Text.nat? name.toList with
    | some n => s.params[n - 1]?
    | none => s.get? name

/-! ### Parts of a script -/

/-- Takes back what a part of a script did that ran on its own: it keeps files, input and output,
and forgets variables and the working directory. -/
def rejoin (outer inner : State) : State :=
  { outer with
    files := inner.files
    input := inner.input
    status := inner.status
    pipes := inner.pipes.take outer.pipes.length
    written := inner.written
    flow := if inner.flow = .killed then .killed else .next }

/-- Leaves one loop. -/
def leaveLoop (s : State) : State :=
  { s with
    flow :=
      match s.flow with
      | .leave n => if n ≤ 1 then .next else .leave (n - 1)
      | .again n => if n ≤ 1 then .next else .again (n - 1)
      | flow => flow }

/-- Goes on with the loop where its body asks for the next round. -/
def nextRound (s : State) : State :=
  if s.flow = .again 1 then { s with flow := .next } else s

/-- Runs a part of a script unless it stops before. -/
def andThen (s : State) (f : State → State) : State :=
  if s.flow = .next then f s else s

end State

namespace State

/-- Runs a part of a script on whose success something hangs. -/
def watch (s : State) (f : State → State) : State :=
  { f { s with watched := true } with watched := s.watched }

/-- Ends the script after a failure if it is to end then and nothing hangs on the failure. -/
def checked (s : State) : State :=
  if s.flow = .next ∧ s.status ≠ 0 ∧ !s.watched ∧ s.options.contains 'e' then
    { s with flow := .exit }
  else s

/-- The characters at which values are split. -/
def separators (s : State) : List Char :=
  (s.get? "IFS").getD [' ', '\t', '\n']

end State

/-! ### Expanded words -/

/-- How a character came into a word. -/
inductive Mark where
  /-- It was quoted. -/
  | quoted
  /-- It stands in the script. -/
  | literal
  /-- It is part of a value that was not quoted. -/
  | expanded
deriving DecidableEq, Inhabited

/-- A piece of an expanded word. -/
inductive Piece where
  /-- A character. -/
  | char (c : Char) (mark : Mark)
  /-- A quoted text begins, perhaps an empty one. -/
  | opening
  /-- One word ends and another begins. -/
  | separator
deriving DecidableEq, Inhabited

namespace Piece

/-- The pieces of a value. -/
def ofValue (quoted : Bool) (value : List Char) : List Piece :=
  if quoted then .opening :: value.map (.char · .quoted) else value.map (.char · .expanded)

/-- The pieces as one text. -/
def text (pieces : List Piece) : List Char :=
  pieces.filterMap fun
    | .char c _ => some c
    | .opening => none
    | .separator => some ' '

/-- The pieces as a pattern. -/
def pattern (pieces : List Piece) : List Glob.Item :=
  let marked := pieces.filterMap fun
    | .char c mark => some (c, mark == .quoted)
    | .opening => none
    | .separator => some (' ', true)
  Glob.ofMarked marked.length marked

/-- Whether a separator is a blank, so that many of them count as one. -/
def isBlank (c : Char) : Bool :=
  c == ' ' || c == '\t' || c == '\n'

/-- The words of pieces: values that are not quoted are split at the separators.  A separator that
is no blank ends a word even if the word is empty. -/
def fields (separators : List Char) (pieces : List Piece) : List (List Char) :=
  go none false pieces
where
  /-- Goes on with the word that is begun; `closed` tells whether a blank has ended the last one. -/
  go (word : Option (List Char)) (closed : Bool) : List Piece → List (List Char)
    | [] => word.toList
    | .opening :: rest => go (some (word.getD [])) false rest
    | .separator :: rest => word.toList ++ go none false rest
    | .char c mark :: rest =>
      if mark = .expanded ∧ separators.contains c then
        if isBlank c then word.toList ++ go none (closed || word.isSome) rest
        else (if closed then [] else [word.getD []]) ++ go none false rest
      else go (some (word.getD [] ++ [c])) false rest

end Piece

end AsmExplorer.Shell
