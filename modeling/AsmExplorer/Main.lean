import AsmExplorer.CommandLine.Run

/-!
# The program

Runs the program on a machine that holds the files of the working directory and the user's settings.
Compilers run on that machine, so they are scripts for its shell, and what they write is gone when
the program ends.
-/

namespace AsmExplorer.Main

/-- An entry of a directory with all that is below it, down to a depth.  What cannot be read is left
out. -/
def nodes (above : Names) : (depth : Nat) → IO.FS.DirEntry → IO (List (Names × FileNode))
  | 0, _ => return []
  | depth + 1, entry => do
    let names := above ++ [Text.bytes entry.fileName]
    try
      if ← entry.path.isDir then
        let below ← (← entry.path.readDir).toList.mapM (nodes names depth)
        return (names, .directory) :: below.flatten
      else
        return [(names, .file (← IO.FS.readBinFile entry.path).toList)]
    catch _ => return []

/-- The names of a path without `.` and `..`. -/
def namesOf (path : Path) : Names :=
  path.normalize.components.filterMap fun
    | .name bytes => some bytes
    | _ => none

/-- Puts a file into a file system, with the directories above it, if it can be read. -/
def load (files : FileTree) (path : Path) : IO FileTree := do
  try
    let bytes ← IO.FS.readBinFile path.display
    let names := namesOf path
    return (files.makeDirectories names.dropLast).insert names (.file bytes.toList)
  catch _ => return files

/-- The machine on which the program runs. -/
def machine : IO Machine := do
  let cwd ← IO.currentDir
  let names := namesOf (.ofText cwd.toString)
  let entries ← (← cwd.readDir).toList.mapM (nodes names 6)
  let env ← ["HOME", "PATH", "XDG_CONFIG_HOME"].filterMapM fun name => do
    return (← IO.getEnv name).map (name, ·)
  let files := entries.flatten.foldl (fun files (names, node) => files.insert names node)
    (Machine.plain.files.makeDirectories names)
  let files ←
    match LoadedConfig.settingsDirectory? env with
    | some directory =>
      let place := directory.join LoadedConfig.directoryName
      load files (place.join LoadedConfig.userName)
    | none => pure files
  return { Machine.plain with files, cwd := names, env }

end AsmExplorer.Main

open AsmExplorer in
/-- Prints what the program prints for its arguments. -/
def main (args : List String) : IO UInt32 := do
  let printed := CommandLine.run (← Main.machine) args
  IO.print printed.stdout
  IO.eprint printed.stderr
  return UInt32.ofNat printed.code
