import AsmExplorer.Path
import AsmExplorer.Text.Utf8

/-!
# File trees

A file system as a value: the entries under the root, by the names that lead to them.  Looking up a
path walks it name by name the way an operating system does, so that a missing entry, a file in the
middle of a path, and a directory in the place of a file are told apart.  A link stands for the path
that it holds, seen from the directory of the link.
-/

namespace AsmExplorer

/-- Why a file operation fails. -/
inductive IoFault where
  /-- There is no such entry. -/
  | notFound
  /-- The entry may not be used so. -/
  | permissionDenied
  /-- A file stands where a directory is needed. -/
  | notADirectory
  /-- A directory stands where a file is needed. -/
  | isADirectory
  /-- The bytes of a text file are not UTF-8. -/
  | notUtf8
  /-- A path or a name in it is longer than a system takes. -/
  | nameTooLong
  /-- Links lead to links, again and again. -/
  | tooManyLinks
  /-- A path holds a zero byte. -/
  | zeroByte
  /-- What is given to a process holds a zero byte. -/
  | zeroArgument
  /-- What is given to a process is longer than a system takes. -/
  | argumentTooLong
deriving DecidableEq, Inhabited

/-- The wording of a fault. -/
def IoFault.message : IoFault → String
  | notFound => "No such file or directory (os error 2)"
  | permissionDenied => "Permission denied (os error 13)"
  | notADirectory => "Not a directory (os error 20)"
  | isADirectory => "Is a directory (os error 21)"
  | notUtf8 => "stream did not contain valid UTF-8"
  | nameTooLong => "File name too long (os error 36)"
  | tooManyLinks => "Too many levels of symbolic links (os error 40)"
  | zeroByte => "file name contained an unexpected NUL byte"
  | zeroArgument => "nul byte found in provided data"
  | argumentTooLong => "Argument list too long (os error 7)"

/-- The wording of a fault without its number. -/
def IoFault.plainMessage : IoFault → String
  | notFound => "No such file or directory"
  | permissionDenied => "Permission denied"
  | notADirectory => "Not a directory"
  | isADirectory => "Is a directory"
  | notUtf8 => "Invalid or incomplete multibyte or wide character"
  | nameTooLong => "File name too long"
  | tooManyLinks => "Too many levels of symbolic links"
  | zeroByte => "Invalid argument"
  | zeroArgument => "Invalid argument"
  | argumentTooLong => "Argument list too long"

/-- An entry of a file system. -/
inductive FileNode where
  /-- A directory. -/
  | directory
  /-- A file with its bytes. -/
  | file (bytes : List UInt8)
  /-- An executable program, known by its name. -/
  | program (name : String)
  /-- A device that holds nothing, whatever is written to it. -/
  | void
  /-- A link to another path. -/
  | link (target : Path)
deriving DecidableEq, Inhabited

/-- The names that lead from the root to an entry. -/
abbrev Names := List (List UInt8)

/-- A file system: what is found under each list of names.  The root is always a directory. -/
structure FileTree where
  /-- The entries, the latest first. -/
  entries : List (Names × FileNode)
deriving Inhabited

namespace FileTree

/-- The entry under a list of names. -/
def find? (tree : FileTree) (names : Names) : Option FileNode :=
  if names.isEmpty then some .directory else tree.entries.lookup names

/-- Puts an entry under a list of names. -/
def insert (tree : FileTree) (names : Names) (node : FileNode) : FileTree :=
  ⟨(names, node) :: tree.entries.filter (·.1 != names)⟩

/-- Removes the entry under a list of names and all that is below it. -/
def erase (tree : FileTree) (names : Names) : FileTree :=
  ⟨tree.entries.filter fun e => !names.isPrefixOf e.1⟩

/-- The most bytes that a name may have. -/
def maxName : Nat := 255

/-- The most bytes that a path may have. -/
def maxPath : Nat := 4095

/-- The most links that are followed on the way to an entry. -/
def maxLinks : Nat := 40

/-- Goes one step from an entry; the names are held in reverse. -/
def step (tree : FileTree) (reversed : Names) (c : Path.Component) : Except IoFault Names :=
  match tree.find? reversed.reverse with
  | none => .error .notFound
  | some .directory =>
    match c with
    | .root => .ok []
    | .here => .ok reversed
    | .up => .ok reversed.tail
    | .name bytes =>
      if bytes.length > maxName then .error .nameTooLong else .ok (bytes :: reversed)
  | some _ => .error .notADirectory

/-- Goes along the components of a path up to the first link, from which on `onLink` goes.  If
`keepsLast` is set, a link at the end is not followed. -/
def followTo (onLink : Names → List Path.Component → Except IoFault Names) (tree : FileTree)
    (keepsLast : Bool) : Names → List Path.Component → Except IoFault Names
  | reversed, [] => .ok reversed
  | reversed, c :: rest =>
    match tree.step reversed c with
    | .error fault => .error fault
    | .ok next =>
      match tree.find? next.reverse with
      | some (.link target) =>
        if keepsLast ∧ rest.isEmpty then .ok next
        else onLink reversed (target.components ++ rest)
      | _ => followTo onLink tree keepsLast next rest

/-- Goes along the components of a path and of the links on the way, `links` of them at most. -/
def follow (tree : FileTree) (keepsLast : Bool) :
    (links : Nat) → Names → List Path.Component → Except IoFault Names
  | 0 => followTo (fun _ _ => .error .tooManyLinks) tree keepsLast
  | links + 1 => followTo (follow tree keepsLast links) tree keepsLast

/-- The names under which the entry of a path would be found, starting from a directory.  All
entries on the way must be directories.  A link at the end is followed unless `keepsLast` is set. -/
def walk (tree : FileTree) (from_ : Names) (p : Path) (keepsLast : Bool := false) :
    Except IoFault Names :=
  if p.bytes = [] then .error .notFound
  else if p.bytes.contains 0 then .error .zeroByte
  else if p.bytes.length > maxPath then .error .nameTooLong
  else
    (tree.follow keepsLast maxLinks (if p.isAbsolute then [] else from_.reverse) p.components).map
      List.reverse

/-- The entry of a path, with its names. -/
def lookup (tree : FileTree) (from_ : Names) (p : Path) (keepsLast : Bool := false) :
    Except IoFault (Names × FileNode) := do
  let names ← tree.walk from_ p keepsLast
  match tree.find? names with
  | none => .error .notFound
  | some .directory => .ok (names, .directory)
  | some node =>
    if p.bytes.getLast? = some Path.slash then .error .notADirectory else .ok (names, node)

/-- The bytes of the file of a path. -/
def read (tree : FileTree) (from_ : Names) (p : Path) : Except IoFault (List UInt8) := do
  match ← tree.lookup from_ p with
  | (_, .file bytes) => .ok bytes
  | (_, .program _) => .ok []
  | (_, .void) => .ok []
  | (_, .link _) => .error .notFound
  | (_, .directory) => .error .isADirectory

/-- The text of the file of a path. -/
def readText (tree : FileTree) (from_ : Names) (p : Path) : Except IoFault (List Char) := do
  match Text.decode? (← tree.read from_ p) with
  | some text => .ok text
  | none => .error .notUtf8

/-- Writes the file of a path, after what it holds already or in its place. -/
def write (tree : FileTree) (from_ : Names) (p : Path) (append : Bool) (bytes : List UInt8) :
    Except IoFault FileTree := do
  let names ← tree.walk from_ p
  match tree.find? names, tree.find? names.dropLast with
  | some .directory, _ => .error .isADirectory
  | some (.program _), _ => .error .permissionDenied
  | some .void, _ => .ok tree
  | some (.link _), _ => .error .notFound
  | some (.file old), _ => .ok (tree.insert names (.file (if append then old ++ bytes else bytes)))
  | none, some .directory => .ok (tree.insert names (.file bytes))
  | none, none => .error .notFound
  | none, some _ => .error .notADirectory

/-- Makes the directory under a list of names and all directories above it. -/
def makeDirectories (tree : FileTree) (names : Names) : FileTree :=
  ((List.range (names.length + 1)).map (names.take ·)).foldl
    (fun t above => if (t.find? above).isSome then t else t.insert above .directory) tree

/-- Whether the path leads to a file. -/
def isFile (tree : FileTree) (from_ : Names) (p : Path) : Bool :=
  match tree.lookup from_ p with
  | .ok (_, .directory) => false
  | .ok (_, .void) => false
  | .ok _ => true
  | .error _ => false

/-- The absolute path of an entry. -/
def pathOf (names : Names) : Path :=
  Path.ofComponents (.root :: names.map .name)

/-- The absolute path without `..` of an entry that exists. -/
def canonical? (tree : FileTree) (from_ : Names) (p : Path) : Option Path :=
  (tree.lookup from_ p).toOption.map fun (names, _) => pathOf names

end FileTree

end AsmExplorer
