import AsmExplorer.Path

/-!
# Listing lines

A listing is a list of lines as they are shown, each with the place in the sources that it was
compiled from, as far as the compiler says.
-/

namespace AsmExplorer

/-- A place in a source file. -/
structure SourceLocation where
  /-- The file, as the listing names it. -/
  file : Path
  /-- The line, counted from 1; 0 means that there is none. -/
  line : UInt32
  /-- The column, if it is known. -/
  column : Option UInt32
deriving DecidableEq, Inhabited

namespace SourceLocation

/-- Whether both a file and a line are given. -/
def isResolvable (loc : SourceLocation) : Bool :=
  !loc.file.bytes.isEmpty && loc.line != 0

/-- The line, counted from 0. -/
def lineIndex? (loc : SourceLocation) : Option Nat :=
  if loc.line = 0 then none else some (loc.line.toNat - 1)

end SourceLocation

/-- A line of a listing. -/
structure ParsedLine where
  /-- The text shown. -/
  text : String
  /-- The place it was compiled from. -/
  source : Option SourceLocation
deriving DecidableEq, Inhabited

/-- The place a line was compiled from, if both its file and its line are given. -/
def ParsedLine.resolvable? (line : ParsedLine) : Option SourceLocation :=
  line.source.filter SourceLocation.isResolvable

end AsmExplorer
