import AsmExplorer.Compiler.Manager
import AsmExplorer.View.Synchronizer

/-!
# Configurations

A configuration names compilers, says which of them builds which file, and sets filters and the
behaviour of views.  `Config.warnings` finds what is wrong with a configuration that can be used all
the same, and `Config.manager` builds the compile manager that it describes.
-/

namespace AsmExplorer

/-- A compiler as configured.  What is left out is found from the kind and the executable. -/
structure CompilerConfig where
  /-- The name. -/
  name : String
  /-- The kind of compiler. -/
  kind : Option CompilerKind := none
  /-- The executable. -/
  exe : Path
  /-- Arguments of every call. -/
  args : List String := []
  /-- The flag before a directory of headers. -/
  includeFlag : Option String := none
  /-- Directories of headers. -/
  includePaths : List String := []
  /-- The flag before a macro definition. -/
  defineFlag : Option String := none
  /-- Macro definitions. -/
  defines : List String := []
  /-- Environment variables, sorted by name. -/
  env : List (String × String) := []
  /-- The program that makes symbol names readable. -/
  demangler : Option Path := none
  /-- The arguments of that program. -/
  demanglerArgs : List String := []
  /-- Whether listings may be passed through the demangler. -/
  supportsDemangle : Option Bool := none
  /-- Whether the compiler can write Intel syntax. -/
  supportsIntel : Option Bool := none
  /-- Whether code of libraries can be told apart. -/
  supportsLibraryCodeFilter : Option Bool := none
deriving DecidableEq, Inhabited

/-- The settings of one file as configured. -/
structure FileConfig where
  /-- The file. -/
  file : Path := ⟨[]⟩
  /-- Its settings. -/
  info : CompilationInfo := {}
deriving DecidableEq, Inhabited

/-- A configuration. -/
structure Config where
  /-- The compilers, in order. -/
  compilers : List CompilerConfig := []
  /-- The settings of files without settings of their own. -/
  defaultInfo : Option CompilationInfo := none
  /-- The settings of files, in order. -/
  files : List FileConfig := []
  /-- The filters. -/
  filters : FilterOptions := {}
  /-- The behaviour of views. -/
  sync : SyncSettings := {}
deriving Inhabited

namespace CompilerConfig

/-- The compiler that is configured.  A demangler that is not configured is looked for beside the
executable of a GCC driver. -/
def info (c : CompilerConfig) (files : FileTree) (cwd : Names) : CompilerInfo :=
  let kind := c.kind.getD (CompilerKind.detect c.exe)
  let known := CompilerInfo.ofKind c.name kind c.exe
  { known with
    args := c.args
    includeFlag := c.includeFlag
    includePaths := c.includePaths
    defineFlag := c.defineFlag
    defines := c.defines
    env := c.env
    demangler :=
      match c.demangler with
      | some demangler => some demangler
      | none => if kind = .gcc then (CompilerInfo.detect files cwd c.exe).demangler else none
    demanglerArgs := c.demanglerArgs
    supportsDemangle := c.supportsDemangle.getD known.supportsDemangle
    supportsIntel := c.supportsIntel.getD known.supportsIntel
    supportsLibraryCodeFilter := c.supportsLibraryCodeFilter.getD known.supportsLibraryCodeFilter }

end CompilerConfig

/-- What is wrong with a configuration that can be used all the same. -/
inductive ConfigWarning where
  /-- The name of a compiler is taken by an earlier one. -/
  | duplicateCompiler (name : String)
  /-- Settings name a compiler that is not configured. -/
  | unknownCompiler (scope name : String)
deriving DecidableEq, Inhabited

/-- The wording of a warning. -/
def ConfigWarning.message : ConfigWarning → String
  | duplicateCompiler name =>
    "duplicate compiler '" ++ name ++ "' ignored (first definition wins)"
  | unknownCompiler scope name =>
    "compile settings for " ++ scope ++ " use unknown compiler '" ++ name ++ "'"

namespace Config

/-- The names of the compilers, in order. -/
def compilerNames (c : Config) : List String :=
  c.compilers.map (·.name)

/-- The names that occur earlier in a list, as often as they are repeated. -/
def repeated : List String → List String
  | names => go [] names
where
  /-- Goes through a list; `seen` are the names before it. -/
  go (seen : List String) : List String → List String
    | [] => []
    | name :: rest =>
      if seen.contains name then name :: go seen rest else go (name :: seen) rest

/-- The warning about settings that name an unknown compiler.  An empty name names none. -/
def checkSettings (c : Config) (scope : String) (info : CompilationInfo) : List ConfigWarning :=
  if info.compilerName = "" ∨ c.compilerNames.contains info.compilerName then []
  else [.unknownCompiler scope info.compilerName]

/-- The warnings about a configuration. -/
def warnings (c : Config) : List ConfigWarning :=
  (repeated c.compilerNames).map .duplicateCompiler ++
    c.defaultInfo.toList.flatMap (c.checkSettings "the default entry") ++
    c.files.flatMap fun entry => c.checkSettings entry.file.display entry.info

/-- The settings of files without settings of their own: those configured, or else those of the
first compiler. -/
def fallback (c : Config) : CompilationInfo :=
  match c.defaultInfo, c.compilers with
  | some info, _ => info
  | none, first :: _ => { compilerName := first.name }
  | none, [] => {}

/-- The compile manager that a configuration describes. -/
def manager (c : Config) (files : FileTree) (cwd : Names) : CompileManager :=
  let m : CompileManager := { filters := c.filters }
  let m := c.compilers.foldl (fun m compiler => (m.add (compiler.info files cwd)).1) m
  let m := m.setDefault c.fallback
  c.files.foldl (fun m entry => (m.setInfo entry.file entry.info).1) m

/-- The configuration with the files of its settings given relative to a directory. -/
def anchor (c : Config) (directory : Path) : Config :=
  { c with
    files := c.files.map fun entry =>
      if entry.file.isAbsolute then entry else { entry with file := directory.join entry.file } }

end Config

end AsmExplorer
