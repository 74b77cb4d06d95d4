import AsmExplorer.CommandLine.Help
import AsmExplorer.Config.Load
import AsmExplorer.Data.Json
import AsmExplorer.Listing.Data
import AsmExplorer.Listing.Report

/-!
# Running the program

`CommandLine.run` gives what the program prints for its arguments on a machine, and its exit code:
0 if all went well, 1 for a failure, 2 for arguments that are wrong.
-/

namespace AsmExplorer

/-- What the program leaves. -/
structure Printed where
  /-- The exit code. -/
  code : Nat
  /-- What it wrote to its output. -/
  stdout : String := ""
  /-- What it wrote to its error output. -/
  stderr : String := ""
deriving DecidableEq, Inhabited

/-- Why a run fails. -/
inductive RunFault where
  /-- There is no configuration. -/
  | config (error : ConfigError)
  /-- The empty path names no file. -/
  | emptyPath
  /-- The file makes no document. -/
  | document (fault : DocumentFault)
  /-- The file cannot be compiled. -/
  | compile (error : CompileError)
  /-- A line comes from a file whose path is no text, which no data can hold. -/
  | unwritable
deriving Inhabited

namespace RunFault

/-- The wording of a failure. -/
def message : RunFault → String
  | config _ => "failed to load configuration"
  | emptyPath => "invalid path "
  | document fault => fault.message
  | compile error => error.message
  | unwritable => "path contains invalid UTF-8 characters"

/-- The wording of what lies behind a failure. -/
def cause? : RunFault → Option String
  | config error => some error.message
  | emptyPath => some "cannot make an empty path absolute"
  | document _ => none
  | compile (.spawn _ fault) => some fault.message
  | compile (.unreadable _ fault) => some fault.message
  | compile _ => none
  | unwritable => none

/-- The report on a failure. -/
def report (f : RunFault) : String :=
  let cause :=
    match f.cause? with
    | some cause => "\n\nCaused by:\n    " ++ "\n    ".intercalate (cause.splitOn "\n")
    | none => ""
  "Error: " ++ f.message ++ cause ++ "\n"

end RunFault

/-! ### Sources -/

/-- A file given on the command line: its absolute path and its document. -/
def resolveSource (cwd file : Path) : Except RunFault (Path × Uri) :=
  match file.absolute? cwd with
  | none => .error .emptyPath
  | some path =>
    match sourceUri path with
    | .ok document => .ok (path, document)
    | .error fault => .error (.document fault)

/-- The number of lines of a document, if it is a file that can be read. -/
def sourceLineCount (m : Machine) (document : Uri) : Option Nat := do
  let text ← (m.files.readText m.cwd (← document.toPath?)).toOption
  return (Text.lines text).length

namespace CommandLine

/-- Compiles a file to a unit, on a machine that stays as the compiler leaves it. -/
def compileUnit (m : Machine) (manager : CompileManager) (file : Path) :
    Except RunFault (CompiledUnit × Machine) := do
  let (path, source) ← resolveSource (FileTree.pathOf m.cwd) file
  let (result, m) := manager.compile m path
  let lines ← result.mapError .compile
  let assembly ← (assemblyUri source).mapError .document
  return (.ofLines source assembly lines, m)

/-- What a task prints about a unit. -/
def render (m : Machine) (unit : CompiledUnit) : Task → Except RunFault String
  | .compile true =>
    match unit.lines.mapM ParsedLine.toData? with
    | some lines => .ok (Json.pretty (.list lines) ++ "\n")
    | none => .error .unwritable
  | .compile false => .ok (unit.content ++ "\n")
  | .map => .ok (unit.renderMap (sourceLineCount m))
  | .watch => .ok (CompiledUnit.sourceLabel unit.primary ++ ": " ++ unit.summary ++ "\n")

/-- What a run prints. -/
def perform (m : Machine) (order : Order) : Except RunFault String := do
  let loaded ← (LoadedConfig.discover m order.config).mapError .config
  let manager := loaded.config.manager m.files m.cwd
  let (unit, m) ← compileUnit m manager order.file
  render m unit order.task

/-- What the program prints for its arguments. -/
def run (m : Machine) (args : List String) : Printed :=
  match Arguments.read args with
  | .refused => { code := 2, stderr := "error: invalid arguments\n\n" ++ Help.text none }
  | .version => { code := 0, stdout := versionText }
  | .help topic => { code := 0, stdout := Help.text topic }
  | .helpOnHelp => { code := 0, stdout := Help.onHelp }
  | .run order =>
    match perform m order with
    | .ok text => { code := 0, stdout := text }
    | .error fault => { code := 1, stderr := fault.report }

end CommandLine

end AsmExplorer
