import AsmExplorer.Compiler.Output
import AsmExplorer.Machine.Shell.Run

/-!
# Machines

A machine is a file system, a working directory, an environment, and the programs that can be run.
What the programs do is part of the machine, so that statements about compilations can speak about
any compiler.  `Machine.run` starts a program and waits for its end.
-/

namespace AsmExplorer

/-- A machine. -/
structure Machine where
  /-- The file system. -/
  files : FileTree
  /-- The working directory. -/
  cwd : Names
  /-- The environment variables. -/
  env : List (String × String)
  /-- What the programs do, by name. -/
  programs : String → Option Tool

namespace Machine

/-- The program at a path. -/
def programAt (m : Machine) (path : Path) : Except IoFault Tool := do
  match ← m.files.lookup m.cwd path with
  | (_, .program name) =>
    match m.programs name with
    | some tool => .ok tool
    | none => .error .notFound
  | _ => .error .permissionDenied

/-- The program with a name, in the first of the directories of a search path that holds it.  Where
none does, a file that may not be run is told from one that is missing. -/
def programNamed (m : Machine) (searchPath : String) (name : Path) : Except IoFault Tool :=
  if name.bytes.length > FileTree.maxName then .error .nameTooLong
  else
    (searchPath.toList.splitOn ':').foldr
      (fun directory other =>
        match m.programAt ((Path.ofChars directory).join name) with
        | .ok tool => .ok tool
        | .error .permissionDenied =>
          match other with
          | .ok tool => .ok tool
          | .error _ => .error .permissionDenied
        | .error _ => other)
      (.error .notFound)

/-- An environment with further variables, which hide those of the same name. -/
def extendEnv (env added : List (String × String)) : List (String × String) :=
  env.filter (fun v => !(added.any (·.1 == v.1))) ++ added

/-- The most bytes that one argument or variable of a process may have. -/
def maxArgument : Nat := 131071

/-- Starts a program and gives what it leaves.  A path with a slash names the program itself, any
other one is searched for. -/
def start (m : Machine) (program : Path) (args : List String) (env : List (String × String))
    (stdin : List Char) : Except IoFault Completion := do
  let env := extendEnv m.env env
  let words := program.bytes ::
    (args ++ env.map fun (name, value) => name ++ "=" ++ value).map Text.bytes
  if words.any fun w => w.contains 0 then .error .zeroArgument
  else
    let tool ←
      if program.bytes = [] then .error .notFound
      else if program.bytes.contains Path.slash then m.programAt program
      else m.programNamed ((env.lookup "PATH").getD "") program
    if words.any fun w => w.length > maxArgument then .error .argumentTooLong
    else
      .ok (tool
        { name := program.display, args, env, cwd := m.cwd, stdin := Text.utf8 stdin
          files := m.files })

/-- The outcome of a process as texts. -/
def outcome (c : Completion) : ProgramOutput where
  status :=
    match c.ending with
    | .exited code => some code
    | .killed => none
  stdout := String.ofList (Text.decodeLossy (c.bytes .output))
  stderr := String.ofList (Text.decodeLossy (c.bytes .errors))

/-- Runs a program to its end: its outcome, and the machine as it leaves it. -/
def run (m : Machine) (program : Path) (args : List String) (env : List (String × String))
    (stdin : List Char) : Except IoFault ProgramOutput × Machine :=
  match m.start program args env stdin with
  | .ok c => (.ok (outcome c), { m with files := c.files })
  | .error fault => (.error fault, m)

/-! ### A plain machine -/

/-- The tools of a plain machine, among them the shell. -/
def plainPrograms (name : String) : Option Tool :=
  if name = "sh" then some (Shell.tool Tools.find?) else Tools.find? name

/-- The files of a plain machine: the tools, a directory for temporary files, a device that holds
nothing, and settings that are no programs. -/
def plainFiles : FileTree :=
  let names (path : List String) : Names := path.map Text.bytes
  let directories := [["bin"], ["dev"], ["etc"], ["tmp"], ["usr"], ["usr", "bin"]]
  let tools := "sh" :: Tools.table.map (·.1)
  ⟨directories.map (fun d => (names d, .directory)) ++
    [(names ["dev", "null"], .void)] ++
    ["group", "hostname", "hosts", "passwd"].map (fun s => (names ["etc", s], .file [])) ++
    tools.flatMap fun tool =>
      [(names ["bin", tool], .program tool), (names ["usr", "bin", tool], .program tool)]⟩

/-- A machine with small tools only. -/
def plain : Machine where
  files := plainFiles
  cwd := []
  env := [("PATH", "/usr/local/bin:/usr/bin:/bin")]
  programs := plainPrograms

end Machine

end AsmExplorer
