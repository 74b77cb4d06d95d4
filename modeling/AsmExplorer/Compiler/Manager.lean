import AsmExplorer.Compiler.Compile
import AsmExplorer.Compiler.Store
import AsmExplorer.Uri.Document

/-!
# The compile manager

`CompileManager` holds the compilers, the settings of files and the filters.  It finds out which
compiler builds a file, and compiles the file with it.
-/

namespace AsmExplorer

/-- Compilers, settings of files, and filters. -/
structure CompileManager where
  /-- The compilers by name. -/
  registry : CompilerRegistry := {}
  /-- The settings of files. -/
  database : CompileInfoDatabase := {}
  /-- The filters. -/
  filters : FilterOptions := {}
deriving Inhabited

namespace CompileManager

/-! ### Contents -/

/-- Adds a compiler unless its name is taken, and tells whether it did. -/
def add (m : CompileManager) (info : CompilerInfo) : CompileManager × Bool :=
  if m.registry.contains info.name then (m, false)
  else ({ m with registry := m.registry.register info }, true)

/-- The names of the compilers, sorted. -/
def names (m : CompileManager) : List String :=
  m.registry.names

/-- The compiler with a name. -/
def compiler? (m : CompileManager) (name : String) : Option CompilerInfo :=
  m.registry.get? name

/-- The settings of files without settings of their own. -/
def defaultInfo (m : CompileManager) : CompilationInfo :=
  m.database.fallback

/-- Changes the settings of files without settings of their own. -/
def setDefault (m : CompileManager) (info : CompilationInfo) : CompileManager :=
  { m with database := { m.database with fallback := info } }

/-- The settings of a file. -/
def info? (m : CompileManager) (file : Path) : Option CompilationInfo :=
  m.database.get? file

/-- Changes the settings of a file, and tells whether they differ from those before. -/
def setInfo (m : CompileManager) (file : Path) (info : CompilationInfo) : CompileManager × Bool :=
  let (database, changed) := m.database.set file info
  ({ m with database }, changed)

/-- Changes the filters. -/
def setFilters (m : CompileManager) (filters : FilterOptions) : CompileManager :=
  { m with filters }

/-! ### Build systems -/

/-- Takes over what a build system says about a file, and tells whether the settings of the file
changed.  The compiler is kept under a name of its own; one that has this name already stays. -/
def applyEntry (m : CompileManager) (files : FileTree) (cwd : Names) (file : Path)
    (reported : BuildSystemCompileInfo) : CompileManager × Bool :=
  let name := BuildSystemCompileInfo.compilerName reported.compilerPath
  let detected := { CompilerInfo.detect files cwd reported.compilerPath with name }
  let (registry, compiler) := m.registry.getOrRegister detected
  { m with registry }.setInfo file (reported.settings compiler.name)

/-- Takes over what a build system says, and gives the files whose settings changed. -/
def apply (m : CompileManager) (files : FileTree) (cwd : Names) :
    List (Path × BuildSystemCompileInfo) → CompileManager × List Path
  | [] => (m, [])
  | (file, reported) :: rest =>
    let (m, changed) := m.applyEntry files cwd file reported
    let (m, more) := m.apply files cwd rest
    (m, if changed then file :: more else more)

/-! ### Compiling -/

/-- A failure under given settings: those for files without settings of their own are named. -/
def wrap (stored : Bool) (error : CompileError) : CompileError :=
  if stored then error else .underDefault error

/-- Compiles a file with the settings in force for it. -/
def compile (m : CompileManager) (machine : Machine) (file : Path) :
    Except CompileError (List ParsedLine) × Machine :=
  let (settings, stored) := m.database.getOrDefault file
  match m.compiler? settings.compilerName with
  | none => (.error (wrap stored (.compilerNotFound settings.compilerName)), machine)
  | some info =>
    let (result, machine) := info.compile machine settings m.filters file
    (result.mapError (wrap stored), machine)

/-- Compiles the file that a URI names. -/
def compileSource (m : CompileManager) (machine : Machine) (source : Uri) :
    Except CompileError (List ParsedLine) × Machine :=
  match source.toPath? with
  | some file => m.compile machine file
  | none => (.error (.notAFile source), machine)

end CompileManager

end AsmExplorer
