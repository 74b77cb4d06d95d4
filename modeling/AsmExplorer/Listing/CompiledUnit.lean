import AsmExplorer.Listing.Index

/-!
# Compiled units

A `CompiledUnit` is the listing of one source document together with its line index; an attempt to
compile ends in a `UnitState`, a unit or a failure.
-/

namespace AsmExplorer

/-- The listing of one source. -/
structure CompiledUnit where
  /-- The source that was compiled. -/
  primary : Uri
  /-- The document in which the listing is shown. -/
  assembly : Uri
  /-- The listing. -/
  lines : List ParsedLine
  /-- The line index of the listing. -/
  index : LineIndex := LineIndex.build lines
  /-- The index is that of the listing. -/
  index_eq : index = LineIndex.build lines := by rfl

namespace CompiledUnit

instance : Inhabited CompiledUnit :=
  ⟨{ primary := default, assembly := default, lines := [] }⟩

/-- The unit of a listing. -/
def ofLines (primary assembly : Uri) (lines : List ParsedLine) : CompiledUnit :=
  { primary, assembly, lines }

/-- The source documents of the listing: the primary source and all that occur in it, each once. -/
def referenced (u : CompiledUnit) : List Uri :=
  if u.index.files.contains u.primary then u.index.files else u.primary :: u.index.files

/-- Whether a document is a source of the listing. -/
def references (u : CompiledUnit) (file : Uri) : Bool :=
  file == u.primary || u.index.containsFile file

/-- The number of lines of the listing. -/
def lineCount (u : CompiledUnit) : Nat :=
  u.lines.length

/-- The text of the document in which the listing is shown. -/
def content (u : CompiledUnit) : String :=
  "\n".intercalate (u.lines.map ParsedLine.text)

/-- The source line that a line of the listing came from. -/
def definitionAt? (u : CompiledUnit) (line : Nat) : Option SourceLine :=
  u.index.sourceLine? line

end CompiledUnit

/-- A compilation that produced no listing. -/
structure CompileFailure where
  /-- The source. -/
  source : Uri
  /-- What the compiler said. -/
  message : String
deriving DecidableEq, Inhabited

/-- The outcome of a compilation. -/
inductive UnitState where
  /-- The listing. -/
  | compiled (unit : CompiledUnit)
  /-- The failure. -/
  | failed (failure : CompileFailure)
deriving Inhabited

namespace UnitState

/-- The unit, if there is one. -/
def unit? : UnitState → Option CompiledUnit
  | compiled u => some u
  | failed _ => none

/-- The failure, if there is one. -/
def failure? : UnitState → Option CompileFailure
  | compiled _ => none
  | failed f => some f

/-- The text of the document: the listing, or what the compiler said. -/
def content : UnitState → String
  | compiled u => u.content
  | failed f => f.message

end UnitState

end AsmExplorer
