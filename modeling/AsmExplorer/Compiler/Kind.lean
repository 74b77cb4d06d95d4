import AsmExplorer.Listing.Gas
import AsmExplorer.Listing.Masm

/-!
# Kinds of compilers

The kind of a compiler decides how its arguments are written and which listing format it makes.
-/

namespace AsmExplorer

/-- The kind of a compiler. -/
inductive CompilerKind where
  /-- GCC and clang. -/
  | gcc
  /-- The Microsoft compiler. -/
  | msvc
  /-- clang with the arguments of the Microsoft compiler. -/
  | clangCl
deriving DecidableEq, Inhabited

namespace CompilerKind

/-- The name of a kind in settings. -/
def name : CompilerKind → String
  | gcc => "gcc"
  | msvc => "msvc"
  | clangCl => "clang-cl"

/-- The kind with a name. -/
def ofName? (name : String) : Option CompilerKind :=
  [gcc, msvc, clangCl].find? fun kind => kind.name == name

/-- The kind of an executable, from its file name without extension.  No character outside ASCII has
one of the letters of these names as its lower case form, so ASCII case is all that matters. -/
def detect (exe : Path) : CompilerKind :=
  let stem := (Text.decodeLossy (exe.fileStem?.getD [])).map Char.toLower
  if stem = "clang-cl".toList then clangCl else if stem = "cl".toList then msvc else gcc

/-- The arguments that make the compiler write its listing to a file. -/
def outputArguments (kind : CompilerKind) (output : Path) : List String :=
  match kind with
  | gcc => ["-S", "-o", output.display]
  | msvc => ["/c", "/FA", "/Fa" ++ output.display]
  | clangCl => ["/c", "/FA", "/Fa" ++ output.display]

/-- The flag before a directory of headers. -/
def includeFlag : CompilerKind → String
  | gcc => "-I"
  | _ => "/I"

/-- The flag before a macro definition. -/
def defineFlag : CompilerKind → String
  | gcc => "-D"
  | _ => "/D"

/-- The flag for Intel syntax, where it is not the only syntax. -/
def intelFlag? : CompilerKind → Option String
  | gcc => some "-masm=intel"
  | _ => none

/-- Reads a listing in the format of the kind. -/
def parse (kind : CompilerKind) (text : List Char) (filters : FilterOptions) : List ParsedLine :=
  match kind with
  | gcc => Gas.parse text filters
  | clangCl => Gas.parse text filters
  | msvc => Masm.parse text filters

end CompilerKind

end AsmExplorer
