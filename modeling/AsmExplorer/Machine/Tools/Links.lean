import AsmExplorer.Machine.Tools.Basic

/-!
# Links and entries

The tools that make and read links, those that change or remove an entry itself and not what it
leads to, and the one that lists the entries of a directory.
-/

namespace AsmExplorer.Tools

/-- Whether an entry is a link. -/
def isLink (p : Process) (name : String) : Bool :=
  match p.files.lookup p.cwd (.ofText name) true with
  | .ok (_, .link _) => true
  | _ => false

/-- The wording of an entry that cannot be linked to or from. -/
def cannotLink (p : Process) (name reason : String) : String :=
  let kind := if hasOption p 's' then "symbolic" else "hard"
  "ln: failed to create " ++ kind ++ " link '" ++ name ++ "': " ++ reason

/-- What an entry that is linked to becomes under its new name. -/
def linkedNode (p : Process) (target : String) : Except String FileNode :=
  if hasOption p 's' then .ok (.link (.ofText target))
  else
    match p.files.lookup p.cwd (.ofText target) true with
    | .ok (_, .directory) => .error ("ln: " ++ target ++ ": hard link not allowed for directory")
    | .ok (_, node) => .ok node
    | .error fault => .error ("ln: failed to access '" ++ target ++ "': " ++ fault.plainMessage)

/-- Puts a node under a new path; with `-f` in the place of another one. -/
def placeLink (p : Process) (path : Path) (node : FileNode) : Except String FileTree :=
  match p.files.walk p.cwd path true with
  | .error fault => .error (cannotLink p path.display fault.plainMessage)
  | .ok names =>
    match p.files.find? names, p.files.find? names.dropLast with
    | none, some .directory => .ok (p.files.insert names node)
    | none, some _ => .error (cannotLink p path.display IoFault.notADirectory.plainMessage)
    | none, none => .error (cannotLink p path.display IoFault.notFound.plainMessage)
    | some .directory, _ => .error (cannotLink p path.display "File exists")
    | some _, _ =>
      if hasOption p 'f' then .ok (p.files.insert names node)
      else .error (cannotLink p path.display "File exists")

/-- Makes links; with `-s` they hold paths, otherwise they are entries under another name. -/
def ln : Tool := fun p =>
  let made (files : FileTree) (target place : String) : Except String FileTree := do
    let p := { p with files }
    placeLink p (targetPath p target place) (← linkedNode p target)
  match operands p.args with
  | [target] => change p 1 [target] fun files target => made files target "."
  | _ => intoLast p made

/-- The path that a link holds, or with `-f` the path without links that an operand leads to, the
last name of which may be missing. -/
def linkTarget? (p : Process) (name : String) : Option Path :=
  if hasOption p 'f' then
    match p.files.walk p.cwd (.ofText name) with
    | .ok names =>
      if p.files.find? names.dropLast = some .directory then some (FileTree.pathOf names)
      else none
    | .error _ => none
  else
    match p.files.lookup p.cwd (.ofText name) true with
    | .ok (_, .link target) => some target
    | _ => none

/-- Writes what links lead to. -/
def readlink : Tool := needingOperand "missing operand" fun p =>
  (operands p.args).foldl
    (fun c name =>
      match linkTarget? p name with
      | some path => put c (path.bytes ++ Text.utf8 ['\n'])
      | none => { c with ending := .exited 1 })
    (p.complete false)

/-- The names right below a directory, sorted; those that start with a dot only if `all` is set. -/
def namesBelow (files : FileTree) (directory : Names) (all : Bool) : List String :=
  let below := files.entries.filterMap fun (names, _) =>
    match names.getLast? with
    | some name =>
      if names.dropLast == directory ∧ (all ∨ name.head? ≠ some Path.dot) then
        some (Text.lossy name)
      else none
    | none => none
  below.mergeSort fun a b => !decide (b < a)

/-- Writes the names in directories, and the operands that are none. -/
def ls : Tool := fun p =>
  let named := operands p.args
  (if named.isEmpty then ["."] else named).foldl
    (fun c name =>
      match p.files.lookup p.cwd (.ofText name) with
      | .ok (names, .directory) =>
        (namesBelow p.files names (hasOption p 'A')).foldl
          (fun c below => c.say (below.toList ++ ['\n'])) c
      | .ok _ => c.say (name.toList ++ ['\n'])
      | .error fault =>
        if isLink p name then c.say (name.toList ++ ['\n'])
        else c.complain 2 ("ls: cannot access '" ++ name ++ "': " ++ fault.plainMessage))
    (p.complete false)

/-- Removes directories that hold nothing. -/
def rmdir : Tool := needingOperand "missing operand" fun p =>
  change p 1 (operands p.args) fun files name =>
    let fails (reason : String) : Except String FileTree :=
      .error ("rmdir: failed to remove '" ++ name ++ "': " ++ reason)
    match files.lookup p.cwd (.ofText name) true with
    | .ok (names, .directory) =>
      if files.entries.any fun e => names.isPrefixOf e.1 && e.1 != names then
        fails "Directory not empty"
      else .ok (files.erase names)
    | .ok _ => fails IoFault.notADirectory.plainMessage
    | .error fault => fails fault.plainMessage

/-- Removes an entry that is no directory. -/
def unlink : Tool := needingOperand "missing operand" fun p =>
  change p 1 (operands p.args) fun files name =>
    let fails (reason : String) : Except String FileTree :=
      .error ("unlink: cannot unlink '" ++ name ++ "': " ++ reason)
    match files.lookup p.cwd (.ofText name) true with
    | .ok (_, .directory) => fails IoFault.isADirectory.plainMessage
    | .ok (names, _) => .ok (files.erase names)
    | .error fault => fails fault.plainMessage

/-- Changes who may use an entry, which the owner of the machine does not notice. -/
def chmod : Tool := fun p =>
  change p 1 ((operands p.args).drop 1) fun files name =>
    match files.lookup p.cwd (.ofText name) with
    | .ok _ => .ok files
    | .error fault => .error ("chmod: cannot access '" ++ name ++ "': " ++ fault.plainMessage)

end AsmExplorer.Tools
