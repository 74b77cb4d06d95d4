import AsmExplorer.Listing.CompiledUnit

/-!
# The source map of a unit

`CompiledUnit.renderMap` lists, for each source document, which listing lines every source line
produced.  The primary source comes first, the others follow in order; all lines are counted from
1.  Where the length of a source is known, the number of its unused lines follows.
-/

namespace AsmExplorer

/-- A number, filled with spaces on the left up to a width. -/
def padLeft (width : Nat) (n : Nat) : String :=
  let digits := toString n
  "".pushn ' ' (width - digits.length) ++ digits

namespace CompiledUnit

/-- The sources of a unit in the order of the report. -/
def reportOrder (u : CompiledUnit) : List Uri :=
  u.primary :: Uri.sort (u.referenced.filter (· != u.primary))

/-- The heading of a source: its path if it is a file here, otherwise its URI. -/
def sourceLabel (file : Uri) : String :=
  match file.toPath? with
  | some path => path.display
  | none => file.render

/-- The row of a source line. -/
def mapRow (bucket : Nat × List Nat) : String :=
  "  " ++ padLeft 5 (bucket.1 + 1) ++ " -> " ++
    ", ".intercalate (bucket.2.map fun k => toString (k + 1))

/-- The number of lines of a source that produced nothing; all of them if the source does not
occur in the listing. -/
def unusedCount (u : CompiledUnit) (file : Uri) (total : Nat) : Nat :=
  if u.index.containsFile file then (u.index.unusedLines file total).length else total

/-- The lines of the report on one source. -/
def mapSection (u : CompiledUnit) (lineCount : Uri → Option Nat) (file : Uri) : List String :=
  sourceLabel file :: (u.index.buckets file).map mapRow ++
    (match lineCount file with
     | some total => [s!"  {u.unusedCount file total} of {total} lines produced no code"]
     | none => [])

/-- The report on all sources. -/
def renderMap (u : CompiledUnit) (lineCount : Uri → Option Nat) : String :=
  String.join ((u.reportOrder.flatMap (u.mapSection lineCount)).map (· ++ "\n"))

/-- One line about a unit. -/
def summary (u : CompiledUnit) : String :=
  s!"{u.lineCount} lines, {u.index.mappedCount} mapped, {u.referenced.length} source files"

end CompiledUnit

end AsmExplorer
