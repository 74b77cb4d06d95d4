import AsmExplorer.Machine.Process

/-!
# What tools have in common

A tool takes options and operands, does the same with every operand, and complains about those that
it can do nothing with.
-/

namespace AsmExplorer.Tools

/-- A message of a tool about an operand. -/
def about (tool name : String) (fault : IoFault) : String :=
  tool ++ ": " ++ name ++ ": " ++ fault.plainMessage

/-- Does something with the bytes of every operand, or of the input if there is none. -/
def overOperands (p : Process) (operands : List String)
    (f : Completion → List UInt8 → Completion) : Completion :=
  let operands := if operands.isEmpty then ["-"] else operands
  operands.foldl
    (fun c name =>
      match p.operand name with
      | .ok bytes => f c bytes
      | .error fault => c.complain 1 (about p.name name fault))
    (p.complete (operands.any Process.isInput))

/-- Writes bytes. -/
def put (c : Completion) (bytes : List UInt8) : Completion :=
  { c with written := c.written ++ [(.output, bytes)] }

/-- Whether one of the arguments is an option with a letter. -/
def hasOption (p : Process) (letter : Char) : Bool :=
  p.args.any fun arg => arg.startsWith "-" && arg.toList.contains letter

/-- The arguments that are no options. -/
def operands (args : List String) : List String :=
  args.filter fun arg => !(arg.startsWith "-" && arg.length > 1)

/-- Complains about a call that makes no sense, and says where to find help. -/
def misused (p : Process) (code : Nat) (message : String) : Completion :=
  let complained := (p.complete false).complain code (p.name ++ ": " ++ message)
  complained.complain code ("Try '" ++ p.name ++ " --help' for more information.")

/-- A tool that needs an operand at least. -/
def needingOperand (message : String) (tool : Tool) : Tool := fun p =>
  if (operands p.args).isEmpty then misused p 1 message else tool p

/-- Changes the file system for every operand. -/
def change (p : Process) (code : Nat) (names : List String)
    (f : FileTree → String → Except String FileTree) : Completion :=
  names.foldl
    (fun c name =>
      match f c.files name with
      | .ok files => { c with files }
      | .error message => c.complain code message)
    (p.complete false)

/-- Does something with every operand but the last one, which is a file to make from a single one or
a directory to put all of them into. -/
def intoLast (p : Process)
    (f : FileTree → String → String → Except String FileTree) : Completion :=
  match operands p.args with
  | [] => misused p 1 "missing file operand"
  | [name] => misused p 1 ("missing destination file operand after '" ++ name ++ "'")
  | [name, place] => change p 1 [name] fun files name => f files name place
  | names =>
    let place := names.getLastD ""
    let fails (reason : String) : Completion :=
      (p.complete false).complain 1 (p.name ++ ": target '" ++ place ++ "': " ++ reason)
    match p.files.lookup p.cwd (.ofText place) with
    | .ok (_, .directory) => change p 1 names.dropLast fun files name => f files name place
    | .ok _ => fails IoFault.notADirectory.plainMessage
    | .error fault => fails fault.plainMessage

/-- The path of a copy: under its old name if the target is a directory. -/
def targetPath (p : Process) (name target : String) : Path :=
  let place := Path.ofText target
  match p.files.lookup p.cwd place with
  | .ok (_, .directory) => place.join ⟨(Path.ofText name).fileName?.getD []⟩
  | _ => place

end AsmExplorer.Tools
