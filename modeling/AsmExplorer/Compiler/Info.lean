import AsmExplorer.Compiler.Kind
import AsmExplorer.Machine.Files

/-!
# Compilers and compile settings

`CompilerInfo` describes an executable under a name, `CompilationInfo` says which compiler builds a
file and with what further arguments, and `BuildSystemCompileInfo` is the same as a build system
reports it.  `CompilerInfo.arguments` puts a command line together.
-/

namespace AsmExplorer

/-- A compiler and its fixed settings. -/
structure CompilerInfo where
  /-- The name that settings refer to. -/
  name : String
  /-- The kind of compiler. -/
  kind : CompilerKind
  /-- The executable. -/
  exe : Path
  /-- Arguments of every call. -/
  args : List String := []
  /-- The flag before a directory of headers, if not that of the kind. -/
  includeFlag : Option String := none
  /-- Directories of headers. -/
  includePaths : List String := []
  /-- The flag before a macro definition, if not that of the kind. -/
  defineFlag : Option String := none
  /-- Macro definitions. -/
  defines : List String := []
  /-- Environment variables, sorted by name. -/
  env : List (String × String) := []
  /-- The program that makes symbol names readable. -/
  demangler : Option Path := none
  /-- The arguments of that program. -/
  demanglerArgs : List String := []
  /-- Whether listings may be passed through the demangler. -/
  supportsDemangle : Bool := false
  /-- Whether the compiler can write Intel syntax. -/
  supportsIntel : Bool := false
  /-- Whether code of libraries can be told apart. -/
  supportsLibraryCodeFilter : Bool := false
deriving DecidableEq, Inhabited

/-- Which compiler builds a file, and with what further arguments. -/
structure CompilationInfo where
  /-- The name of the compiler. -/
  compilerName : String := ""
  /-- Macro definitions. -/
  defines : List String := []
  /-- Directories of headers. -/
  includes : List String := []
  /-- Further arguments. -/
  args : List String := []
deriving DecidableEq, Inhabited

/-- What a build system says about a file: the compiler by its path, and arguments in fragments
that may hold several. -/
structure BuildSystemCompileInfo where
  /-- The executable of the compiler. -/
  compilerPath : Path := ⟨[]⟩
  /-- Macro definitions. -/
  defines : List String := []
  /-- Directories of headers. -/
  includes : List String := []
  /-- Fragments of arguments. -/
  args : List String := []
deriving DecidableEq, Inhabited

namespace CompilerInfo

/-- A compiler with the capabilities of its kind. -/
def ofKind (name : String) (kind : CompilerKind) (exe : Path) : CompilerInfo :=
  let isGcc := kind == .gcc
  { name, kind, exe, supportsDemangle := isGcc, supportsIntel := isGcc
    supportsLibraryCodeFilter := isGcc }

/-! ### Finding the demangler of a GCC driver -/

/-- What may follow `gcc` or `g++` in a driver's name: a version after a hyphen and the extension
`.exe`.  Returns the extension. -/
def driverSuffix? (s : List Char) : Option (List Char) :=
  let afterVersion :=
    match s with
    | '-' :: rest =>
      match Scan.digits? rest with
      | some (_, rest) => some (dropParts rest rest.length)
      | none => none
    | _ => none
  let extension (s : List Char) : Option (List Char) :=
    if s.isEmpty ∨ s = ".exe".toList then some s else none
  (afterVersion >>= extension) <|> extension s
where
  /-- Drops the further parts of a version: dots with digits after them. -/
  dropParts (s : List Char) : Nat → List Char
    | 0 => s
    | fuel + 1 =>
      match s with
      | '.' :: rest =>
        match Scan.digits? rest with
        | some (_, rest) => dropParts rest fuel
        | none => s
      | _ => s

/-- The path of the demangler beside a GCC driver: `c++filt` in the place of the driver's name,
version and all, with the same extension. -/
def demanglerBeside? : List Char → Option (List Char)
  | [] => none
  | c :: rest =>
    let driver :=
      Text.dropLead? "gcc".toList (c :: rest) <|> Text.dropLead? "g++".toList (c :: rest)
    match driver >>= driverSuffix? with
    | some extension => some ("c++filt".toList ++ extension)
    | none => (demanglerBeside? rest).map (c :: ·)

/-- The demangler beside a GCC driver, if there is such a file.  The path of the driver must be a
text. -/
def findDemangler? (tree : FileTree) (cwd : Names) (exe : Path) : Option Path := do
  let candidate := Path.ofChars (← demanglerBeside? (← exe.text?))
  if tree.isFile cwd candidate then some ((tree.canonical? cwd candidate).getD candidate) else none

/-- The compiler found at a path, named for its executable. -/
def detect (tree : FileTree) (cwd : Names) (exe : Path) : CompilerInfo :=
  let kind := CompilerKind.detect exe
  let name := (exe.fileStem?.map Text.lossy).getD exe.display
  let demangler := if kind = .gcc then findDemangler? tree cwd exe else none
  { ofKind name kind exe with demangler }

/-! ### Command lines -/

/-- The flag in use before a directory of headers. -/
def includeFlagInUse (info : CompilerInfo) : String :=
  info.includeFlag.getD info.kind.includeFlag

/-- The flag in use before a macro definition. -/
def defineFlagInUse (info : CompilerInfo) : String :=
  info.defineFlag.getD info.kind.defineFlag

/-- The arguments that compile a file to a listing: first those of the compiler, then those of the
file; then directories, definitions, the syntax, the output, and the file. -/
def arguments (info : CompilerInfo) (settings : CompilationInfo) (filters : FilterOptions)
    (file output : Path) : List String :=
  info.args ++ settings.args ++
    (info.includePaths ++ settings.includes).map (info.includeFlagInUse ++ ·) ++
    (info.defines ++ settings.defines).map (info.defineFlagInUse ++ ·) ++
    (if filters.intel && info.supportsIntel then info.kind.intelFlag?.toList else []) ++
    info.kind.outputArguments output ++ [file.display]

end CompilerInfo

namespace BuildSystemCompileInfo

/-- The name under which a compiler of the build system is kept. -/
def compilerName (compilerPath : Path) : String :=
  "build: " ++ (compilerPath.fileName?.map Text.lossy).getD compilerPath.display

/-- The settings of a file, with every fragment cut into its arguments. -/
def settings (reported : BuildSystemCompileInfo) (name : String) : CompilationInfo :=
  { compilerName := name, defines := reported.defines, includes := reported.includes
    args := reported.args.flatMap fun s => (Text.words s.toList).map String.ofList }

end BuildSystemCompileInfo

end AsmExplorer
