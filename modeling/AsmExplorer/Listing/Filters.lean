/-!
# Listing filters

Which lines of a listing are shown, and how.  By default labels that nothing refers to, directives
and comments are hidden.
-/

namespace AsmExplorer

/-- The choices of the user. -/
structure FilterOptions where
  /-- Hide labels that nothing refers to. -/
  labels : Bool := true
  /-- Hide functions without code of the main source file. -/
  libraryCode : Bool := false
  /-- Hide directives; directives that make data are kept. -/
  directives : Bool := true
  /-- Hide blank lines and lines that hold a comment only. -/
  commentOnly : Bool := true
  /-- Collapse runs of blanks. -/
  trim : Bool := false
  /-- Pass the listing through the demangler. -/
  demangle : Bool := false
  /-- Ask the compiler for Intel syntax. -/
  intel : Bool := false
  /-- Keep calls of the debug intrinsics. -/
  debugCalls : Bool := false
deriving DecidableEq, Inhabited

namespace FilterOptions

/-- All choices off. -/
def off : FilterOptions :=
  { labels := false, directives := false, commentOnly := false }

end FilterOptions

end AsmExplorer
