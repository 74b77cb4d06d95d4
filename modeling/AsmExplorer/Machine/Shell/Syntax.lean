import AsmExplorer.Text.Blank

/-!
# Shell scripts

A script is a sequence of commands.  Words hold parts that are replaced when a command runs:
parameters, the output of other commands, and sums.
-/

namespace AsmExplorer.Shell

/-- What becomes of the value of a parameter. -/
inductive ParamUse where
  /-- It is taken as it is. -/
  | value
  /-- Its length is taken. -/
  | length
  /-- A word stands for a missing value; an empty one counts as missing if `colon` is set. -/
  | orElse (colon : Bool)
  /-- A word stands for a missing value and is stored. -/
  | orStore (colon : Bool)
  /-- A word stands for a value that is not missing. -/
  | ifSet (colon : Bool)
  /-- A missing value is an error. -/
  | orFail (colon : Bool)
  /-- A pattern is removed from its start. -/
  | dropStart (longest : Bool)
  /-- A pattern is removed from its end. -/
  | dropEnd (longest : Bool)
deriving DecidableEq, Inhabited

/-- Whether the word that goes with a use is a pattern. -/
def ParamUse.isPattern : ParamUse → Bool
  | dropStart _ => true
  | dropEnd _ => true
  | _ => false

/-- Whether a use has no word for a missing value. -/
def ParamUse.needsValue : ParamUse → Bool
  | value => true
  | length => true
  | dropStart _ => true
  | dropEnd _ => true
  | _ => false

/-- A part of a word. -/
inductive WordPart where
  /-- Characters that stand for themselves. -/
  | text (quoted : Bool) (s : List Char)
  /-- A parameter. -/
  | param (quoted : Bool) (name : String) (use : ParamUse) (word : List WordPart)
  /-- The output of a script. -/
  | output (quoted : Bool) (script : List Char)
  /-- The value of a sum. -/
  | sum (quoted : Bool) (expression : List WordPart)
deriving Inhabited

/-- A word. -/
abbrev Word := List WordPart

/-- What a redirection does. -/
inductive RedirectKind where
  /-- Reads a file. -/
  | read
  /-- Writes a file. -/
  | write
  /-- Writes at the end of a file. -/
  | append
  /-- Reads a text of the script. -/
  | here
  /-- Reads or writes where another number does. -/
  | copy
deriving DecidableEq, Inhabited

/-- A redirection. -/
structure Redirect where
  /-- The number that is redirected: 0 is the input, 1 the output, 2 the error output. -/
  number : Nat
  /-- What it does. -/
  kind : RedirectKind
  /-- The file, text or number. -/
  target : Word
deriving Inhabited

/-- A command. -/
inductive Command where
  /-- Variables are set, or a program runs with them. -/
  | simple (settings : List (String × Word)) (words : List Word)
  /-- Commands one after the other. -/
  | sequence (commands : List Command)
  /-- Commands each of which reads what the one before writes. -/
  | pipeline (commands : List Command)
  /-- The success of a command is turned into failure, and failure into success. -/
  | negated (c : Command)
  /-- The second command runs if the first succeeds. -/
  | andThen (a b : Command)
  /-- The second command runs if the first fails. -/
  | orElse (a b : Command)
  /-- One of two commands runs, as a third tells. -/
  | branch (test body : Command) (otherwise : Option Command)
  /-- A command runs as long as another succeeds, or fails if `until_` is set. -/
  | loop (until_ : Bool) (test body : Command)
  /-- A command runs for every word, or for every argument of the script. -/
  | each (name : String) (words : Option (List Word)) (body : Command)
  /-- The first command runs whose pattern a word fits. -/
  | select (word : Word) (clauses : List (List Word × Command))
  /-- A command runs without changing what follows. -/
  | subshell (c : Command)
  /-- A command runs with redirections. -/
  | redirected (c : Command) (redirects : List Redirect)
  /-- A command is named. -/
  | define (name : String) (body : Command)
deriving Inhabited

/-- The command that does nothing. -/
def Command.nothing : Command :=
  .sequence []

end AsmExplorer.Shell
