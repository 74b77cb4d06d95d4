import AsmExplorer.Listing.Line
import AsmExplorer.Uri.Document

/-!
# The line index

The correspondence between the lines of a listing and the lines of its source documents, in both
directions:

* `LineIndex.sourceLine?` : the source line a listing line came from.
* `LineIndex.assemblyLines?` : the listing lines that came from a source line, in listing order.

All lines are counted from 0.  A source line that no listing line came from is *unused*, provided
that its document occurs in the listing at all.
-/

namespace AsmExplorer

/-- A line of a source document, counted from 0. -/
structure SourceLine where
  /-- The document. -/
  file : Uri
  /-- The line. -/
  line : Nat
  /-- The column, if it is known. -/
  column : Option UInt32
deriving DecidableEq, Inhabited

/-- The listing lines of each source line of one document, in ascending order of the source
lines. -/
abbrev Buckets := List (Nat × List Nat)

namespace Buckets

/-- Adds a listing line to the bucket of a source line. -/
def add (line k : Nat) : Buckets → Buckets
  | [] => [(line, [k])]
  | (l, ks) :: rest =>
    if line < l then (line, [k]) :: (l, ks) :: rest
    else if line = l then (l, ks ++ [k]) :: rest
    else (l, ks) :: add line k rest

end Buckets

/-- The correspondence between listing and sources. -/
structure LineIndex where
  /-- For each listing line, the source line it came from. -/
  origins : List (Option SourceLine)
  /-- For each document in the listing, its buckets; documents in order of appearance. -/
  documents : List (Uri × Buckets)
deriving Inhabited

namespace LineIndex

/-- Adds a listing line to the buckets of a document. -/
def addTo (file : Uri) (line k : Nat) : List (Uri × Buckets) → List (Uri × Buckets)
  | [] => [(file, [(line, [k])])]
  | (f, buckets) :: rest =>
    if f = file then (f, buckets.add line k) :: rest else (f, buckets) :: addTo file line k rest

/-- The document of a path, taken over from the path before when that has the same components. -/
def documentOf (last : Option (Path × Uri)) (p : Path) : Option Uri :=
  match last with
  | some (q, uri) => if q.components = p.components then some uri else (sourceUri p).toOption
  | none => (sourceUri p).toOption

/-- The source lines of the listing lines; `last` is the path converted last and its document. -/
def originsOf : Option (Path × Uri) → List ParsedLine → List (Option SourceLine)
  | _, [] => []
  | last, line :: rest =>
    match line.resolvable? with
    | none => none :: originsOf last rest
    | some loc =>
      match documentOf last loc.file, loc.lineIndex? with
      | some file, some index =>
        some { file, line := index, column := loc.column } :: originsOf (some (loc.file, file)) rest
      | _, _ => none :: originsOf last rest

/-- The buckets of all documents, from the origins of the listing lines numbered from `k` on. -/
def collect (documents : List (Uri × Buckets)) : Nat → List (Option SourceLine) →
    List (Uri × Buckets)
  | _, [] => documents
  | k, none :: rest => collect documents (k + 1) rest
  | k, some s :: rest => collect (addTo s.file s.line k documents) (k + 1) rest

/-- The index of a listing. -/
def build (lines : List ParsedLine) : LineIndex :=
  let origins := originsOf none lines
  { origins, documents := collect [] 0 origins }

/-- The buckets of a document; none if it does not occur in the listing. -/
def buckets (index : LineIndex) (file : Uri) : Buckets :=
  (index.documents.lookup file).getD []

/-- Whether a document occurs in the listing. -/
def containsFile (index : LineIndex) (file : Uri) : Bool :=
  (index.documents.lookup file).isSome

/-- The documents that occur in the listing. -/
def files (index : LineIndex) : List Uri :=
  index.documents.map (·.1)

/-- The listing lines that came from a source line. -/
def assemblyLines? (index : LineIndex) (file : Uri) (line : Nat) : Option (List Nat) :=
  (index.buckets file).lookup line

/-- The source line that a listing line came from. -/
def sourceLine? (index : LineIndex) (k : Nat) : Option SourceLine :=
  index.origins[k]?.join

/-- The lines of a document of `total` lines that nothing came from; none if the document does not
occur in the listing, for then nothing is known about it. -/
def unusedLines (index : LineIndex) (file : Uri) (total : Nat) : List Nat :=
  match index.documents.lookup file with
  | none => []
  | some buckets => (List.range total).filter fun line => (buckets.lookup line).isNone

/-- The number of listing lines. -/
def lineCount (index : LineIndex) : Nat :=
  index.origins.length

/-- The number of listing lines that came from a known source line. -/
def mappedCount (index : LineIndex) : Nat :=
  index.origins.countP Option.isSome

end LineIndex

end AsmExplorer
