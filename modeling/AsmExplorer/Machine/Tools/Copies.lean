import AsmExplorer.Machine.Tools.Basic

/-!
# Copies

The tools that copy entries and give them other names.
-/

namespace AsmExplorer.Tools

/-- What is under a list of names and below it, under another list of names. -/
def renamed (files : FileTree) (names place : Names) : List (Names × FileNode) :=
  files.entries.filterMap fun (old, node) =>
    if names.isPrefixOf old then some (place ++ old.drop names.length, node) else none

/-- A file system with further entries, each in the place of an earlier one. -/
def withEntries (files : FileTree) (added : List (Names × FileNode)) : FileTree :=
  added.foldr (fun (names, node) files => files.insert names node) files

/-- The names of a place where an entry can be put: its directory must exist. -/
def placeFor (files : FileTree) (cwd : Names) (path : Path) : Except IoFault Names := do
  let names ← files.walk cwd path
  match files.find? names.dropLast, files.find? names with
  | some .directory, some _ => .ok names
  | some .directory, none =>
    if path.bytes.getLast? = some Path.slash then .error .notADirectory else .ok names
  | none, _ => .error .notFound
  | some _, _ => .error .notADirectory

/-- Copies files, and with `-r` directories. -/
def cp : Tool := fun p =>
  intoLast p fun files name place => do
    let p := { p with files }
    let path := targetPath p name place
    let fails (reason : String) : Except String FileTree := .error ("cp: " ++ reason)
    match files.lookup p.cwd (.ofText name), placeFor files p.cwd path with
    | .error fault, _ => fails ("cannot stat '" ++ name ++ "': " ++ fault.plainMessage)
    | .ok (_, .directory), .error fault =>
      fails ("cannot create directory '" ++ path.display ++ "': " ++ fault.plainMessage)
    | .ok (_, _), .error fault =>
      fails ("cannot create regular file '" ++ path.display ++ "': " ++ fault.plainMessage)
    | .ok (names, .directory), .ok target =>
      if hasOption p 'r' || hasOption p 'R' || hasOption p 'a' then
        .ok (withEntries files (renamed files names target))
      else fails ("-r not specified; omitting directory '" ++ name ++ "'")
    | .ok (names, node), .ok target =>
      if names = target then
        fails ("'" ++ name ++ "' and '" ++ path.display ++ "' are the same file")
      else if files.find? target = some .void then .ok files
      else .ok (files.insert target node)

/-- Gives entries other names. -/
def mv : Tool := fun p =>
  intoLast p fun files name place => do
    let p := { p with files }
    let path := targetPath p name place
    let fails (reason : String) : Except String FileTree := .error ("mv: " ++ reason)
    match files.lookup p.cwd (.ofText name) true, placeFor files p.cwd path with
    | .error fault, _ => fails ("cannot stat '" ++ name ++ "': " ++ fault.plainMessage)
    | .ok _, .error fault =>
      fails ("cannot move '" ++ name ++ "' to '" ++ path.display ++ "': " ++ fault.plainMessage)
    | .ok (names, _), .ok target =>
      if names = target then
        fails ("'" ++ name ++ "' and '" ++ path.display ++ "' are the same file")
      else .ok (withEntries (files.erase names) (renamed files names target))

end AsmExplorer.Tools
