import AsmExplorer.Compiler.Error
import AsmExplorer.Compiler.Info
import AsmExplorer.Machine.Basic

/-!
# Compiling a file

`CompilerInfo.compile` runs a compiler on a file and reads the listing that it writes into a scratch
directory.  The directory is made for this compilation and removed after it.
-/

namespace AsmExplorer

/-! ### Places -/

/-- The directory in which scratch directories are made. -/
def temporaryDirectory : Names :=
  [Text.bytes "tmp"]

/-- A name for a scratch directory that is not in use. -/
def scratchNames (files : FileTree) : Names :=
  let name (n : Nat) : Names := temporaryDirectory ++ [Text.bytes ("asmlens-" ++ toString n)]
  let free := (List.range (files.entries.length + 1)).find? fun n => (files.find? (name n)).isNone
  name (free.getD 0)

/-- The listing of a file in a scratch directory: the name of the file with the extension `asm`. -/
def listingPath (scratch file : Path) : Path :=
  (scratch.join ((file.fileStem?.map Path.mk).getD file)).withExtension (Text.bytes "asm")

/-- A line whose source is given relative to a directory. -/
def ParsedLine.anchor (directory : Path) (line : ParsedLine) : ParsedLine :=
  { line with
    source := line.source.map fun s =>
      if s.file.isAbsolute ∨ s.file.bytes = [] then s
      else { s with file := directory.join s.file } }

namespace CompilerInfo

/-! ### The listing -/

/-- Makes the symbol names of a listing readable.  A listing stays as it is if there is no demangler
or if it fails. -/
def demangle (m : Machine) (info : CompilerInfo) (listing : List Char) : List Char × Machine :=
  match info.demangler with
  | none => (listing, m)
  | some demangler =>
    match m.run demangler info.demanglerArgs [] listing with
    | (.ok out, m) => (if out.success then out.stdout.toList else listing, m)
    | (.error _, m) => (listing, m)

/-- The lines of a listing of a file. -/
def linesOf (info : CompilerInfo) (filters : FilterOptions) (file : Path) (listing : List Char) :
    List ParsedLine :=
  let lines := info.kind.parse listing filters
  match file.parent? with
  | some directory => lines.map (ParsedLine.anchor directory)
  | none => lines

/-- Reads the listing that the compiler wrote. -/
def readListing (m : Machine) (info : CompilerInfo) (filters : FilterOptions) (file output : Path) :
    Except CompileError (List ParsedLine) × Machine :=
  match m.files.read m.cwd output with
  | .error fault => (.error (.unreadable output fault), m)
  | .ok bytes =>
    let listing := Text.decodeLossy bytes
    let (listing, m) :=
      if filters.demangle && info.supportsDemangle then info.demangle m listing else (listing, m)
    (.ok (info.linesOf filters file listing), m)

/-- Runs the compiler, which writes to `output`, and reads its listing. -/
def compileTo (m : Machine) (info : CompilerInfo) (settings : CompilationInfo)
    (filters : FilterOptions) (file output : Path) :
    Except CompileError (List ParsedLine) × Machine :=
  match m.run info.exe (info.arguments settings filters file output) info.env [] with
  | (.error fault, m) => (.error (.spawn info.exe fault), m)
  | (.ok out, m) =>
    if out.success then info.readListing m filters file output
    else (.error (.failed file out.status out.diagnostics), m)

/-- Compiles a file to the lines of its listing. -/
def compile (m : Machine) (info : CompilerInfo) (settings : CompilationInfo)
    (filters : FilterOptions) (file : Path) : Except CompileError (List ParsedLine) × Machine :=
  let scratch := scratchNames m.files
  let output := listingPath (FileTree.pathOf scratch) file
  let (result, after) := info.compileTo
    { m with files := m.files.insert scratch .directory } settings filters file output
  (result, { after with files := after.files.erase scratch })

end CompilerInfo

end AsmExplorer
