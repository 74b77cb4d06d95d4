import AsmExplorer.Machine.Printf
import AsmExplorer.Machine.Shell.State

/-!
# Commands of the shell itself

The commands that change the state of a script and so cannot be programs of their own: those that
set variables and arguments, read the input, and end loops and scripts.
-/

namespace AsmExplorer.Shell

/-- A command of the shell: a function of its arguments. -/
abbrev Builtin := List (List Char) → State → State

namespace Builtin

/-- Does nothing and has a code. -/
def constant (status : Nat) : Builtin := fun _ s =>
  s.withStatus status

/-- Ends the script with a code, by default that of the last command. -/
def exit : Builtin := fun args s =>
  match args with
  | [] => { s with flow := .exit }
  | arg :: _ =>
    match Text.nat? arg with
    | some n => { s with flow := .exit, status := n % 256 }
    | none => s.fail 2 ("exit: Illegal number: " ++ String.ofList arg)

/-- Goes back to the caller with a code. -/
def goBack : Builtin := fun args s =>
  match args.head?.bind Text.nat? with
  | some n => { s with flow := .back, status := n % 256 }
  | none => { s with flow := .back }

/-- Leaves loops, or goes on with their next round. -/
def loops (flow : Nat → Flow) : Builtin := fun args s =>
  { s with flow := flow ((args.head?.bind Text.nat?).getD 1), status := 0 }

/-- Changes the working directory. -/
def cd : Builtin := fun args s =>
  let target := (args.head?).getD ((s.get? "HOME").getD ['/'])
  match s.files.lookup s.cwd (Path.ofChars target) with
  | .ok (names, .directory) => { s with cwd := names, status := 0 }
  | _ => s.complain 2 ("cd: can't cd to " ++ String.ofList target)

/-- Writes the working directory. -/
def pwd : Builtin := fun _ s =>
  (s.put 1 ((FileTree.pathOf s.cwd).bytes ++ Text.utf8 ['\n'])).withStatus 0

/-- Sets and clears options, and replaces the arguments of the script. -/
def set : Builtin := fun args s =>
  match args with
  | ['-', '-'] :: params => { s with params, status := 0 }
  | ('-' :: letters) :: rest => set rest { s with options := letters ++ s.options }
  | ('+' :: letters) :: rest =>
    set rest { s with options := s.options.filter fun c => !letters.contains c }
  | [] => s.withStatus 0
  | params => { s with params, status := 0 }

/-- Takes down what runs when the script has ended; other events are not known. -/
def trap : Builtin := fun args s =>
  match args with
  | action :: events =>
    if events.any fun event => event == "EXIT".toList || event == ['0'] then
      { s with atExit := if action = ['-'] then none else some action, status := 0 }
    else s.withStatus 0
  | [] => s.withStatus 0

/-- Drops arguments of the script. -/
def shift : Builtin := fun args s =>
  let n := (args.head?.bind Text.nat?).getD 1
  if n ≤ s.params.length then { s with params := s.params.drop n, status := 0 }
  else s.fail 2 "shift: can't shift that many"

/-- A name and the value after an equals sign. -/
def setting (arg : List Char) : String × Option (List Char) :=
  match Text.splitFirst '=' arg with
  | some (name, value) => (String.ofList name, some value)
  | none => (String.ofList arg, none)

/-- Sets variables and lets programs see them. -/
def publish : Builtin := fun args s =>
  args.foldl
    (fun s arg =>
      match setting arg with
      | (name, some value) => (s.set name value).publish name
      | (name, none) => s.publish name)
    (s.withStatus 0)

/-- Sets variables. -/
def declare : Builtin := fun args s =>
  args.foldl
    (fun s arg =>
      match setting arg with
      | (name, some value) => s.set name value
      | (_, none) => s)
    (s.withStatus 0)

/-- Sets variables that belong to the command being run by name. -/
def localize : Builtin := fun args s =>
  args.foldl
    (fun s arg =>
      match setting arg with
      | (name, some value) => (s.hide name).set name value
      | (name, none) => s.hide name)
    (s.withStatus 0)

/-- Removes variables. -/
def unset : Builtin := fun args s =>
  args.foldl (fun s arg => s.unset (String.ofList arg)) (s.withStatus 0)

/-- Whether the number of a process is that of the script. -/
def isOwn (arg : List Char) : Bool :=
  arg == State.ownNumber

/-- Sends a signal to the script; only its own process is known. -/
def kill : Builtin := fun args s =>
  let targets := args.filter fun arg => arg.head? != some '-'
  if targets.any isOwn then
    if args.contains ['-', '0'] then s.withStatus 0 else { s with flow := .killed }
  else s.complain 1 "kill: No such process"

/-- The first line of an input, each byte with whether a backslash stands before it, and the rest of
the input if the line is ended.  A backslash before a line end joins two lines; if `raw` is set,
backslashes are bytes like others. -/
def firstLine (raw : Bool) : List UInt8 → List (UInt8 × Bool) × Option (List UInt8)
  | [] => ([], none)
  | b :: rest =>
    if b = 10 then ([], some rest)
    else if b = 92 ∧ !raw then
      match rest with
      | [] => ([], none)
      | c :: more =>
        let (line, left) := firstLine raw more
        (if c = 10 then line else (c, true) :: line, left)
    else
      let (line, left) := firstLine raw rest
      ((b, false) :: line, left)

/-- Splits a line at separators into so many parts at most; the last one keeps its separators. -/
def splitLine (isBlank isOther : UInt8 × Bool → Bool) :
    (most : Nat) → List (UInt8 × Bool) → List (List (UInt8 × Bool))
  | 0, _ => []
  | 1, s => [((s.dropWhile isBlank).reverse.dropWhile isBlank).reverse]
  | most + 2, s =>
    let s := s.dropWhile isBlank
    let word := s.takeWhile fun b => !(isBlank b || isOther b)
    let rest := (s.drop word.length).dropWhile isBlank
    let rest := if rest.head?.any isOther then rest.tail else rest
    word :: splitLine isBlank isOther (most + 1) rest

/-- Reads a line of the input into variables. -/
def read : Builtin := fun args s =>
  let names := (args.filter fun arg => arg.head? != some '-').map String.ofList
  let (line, left) := firstLine (args.contains ['-', 'r']) s.input
  let separators := s.separators
  let among (chosen : Char → Bool) (b : UInt8 × Bool) : Bool :=
    !b.2 && separators.any fun c => chosen c && c.toNat == b.1.toNat
  let parts := splitLine (among Piece.isBlank) (among (!Piece.isBlank ·)) names.length line
  let values := parts.map fun part => Text.decodeLossy (part.map (·.1))
  let s := { s with input := left.getD [] }
  ((names.zip (values ++ List.replicate names.length [])).foldl
    (fun s (name, value) => s.set name value) s).withStatus (if left.isSome then 0 else 1)

/-- The commands by name. -/
def table : List (String × Builtin) :=
  [(":", constant 0), ("true", constant 0), ("false", constant 1), ("exit", exit),
    ("return", goBack), ("break", loops .leave), ("continue", loops .again), ("cd", cd),
    ("pwd", pwd), ("set", set), ("shift", shift), ("export", publish), ("readonly", declare),
    ("local", localize), ("unset", unset), ("kill", kill), ("read", read), ("wait", constant 0),
    ("umask", constant 0), ("trap", trap), ("exec", constant 0)]

/-- The command with a name. -/
def find? (name : String) : Option Builtin :=
  table.lookup name

/-- The commands that end the script when their redirections fail. -/
def isSpecial (name : String) : Bool :=
  [":", "exit", "return", "break", "continue", "set", "shift", "export", "readonly", "unset",
    "trap", "exec", "eval", "."].contains name

end Builtin

end AsmExplorer.Shell
