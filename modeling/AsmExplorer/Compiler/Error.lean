import AsmExplorer.Machine.Files
import AsmExplorer.Uri.Basic

/-!
# Why a compilation fails
-/

namespace AsmExplorer

/-- Why a source could not be compiled to a listing. -/
inductive CompileError where
  /-- The settings name a compiler that nobody knows. -/
  | compilerNotFound (name : String)
  /-- The failure arose under the settings for files without settings of their own. -/
  | underDefault (inner : CompileError)
  /-- Only files of this machine can be compiled. -/
  | notAFile (source : Uri)
  /-- The executable could not be started. -/
  | spawn (exe : Path) (fault : IoFault)
  /-- The compiler reported a failure. -/
  | failed (file : Path) (status : Option Int) (output : String)
  /-- The compiler ended well but left no listing that can be read. -/
  | unreadable (listing : Path) (fault : IoFault)
deriving DecidableEq, Inhabited

namespace CompileError

/-- The wording of a failure. -/
def message : CompileError → String
  | compilerNotFound name => "Compiler not found: " ++ name
  | underDefault inner => "(default compile info) " ++ inner.message
  | notAFile source => "not a local source file: " ++ source.render
  | spawn exe fault => s!"failed to run {exe.display}: {fault.message}"
  | failed file _ output => s!"Failed to compile {file.display}: {output}"
  | unreadable listing fault =>
    s!"failed to read compiler output {listing.display}: {fault.message}"

end CompileError

end AsmExplorer
