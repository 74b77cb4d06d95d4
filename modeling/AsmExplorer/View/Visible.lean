import AsmExplorer.Editor.Host
import AsmExplorer.Listing.CompiledUnit

/-!
# The visible editors of a view

An assembly view shows the listing of one source.  Of the visible editors it concerns the first one
that shows the listing, and all that show a source of the listing; as long as there is no listing,
only the primary source counts.
-/

namespace AsmExplorer

/-- The documents of a view. -/
structure ViewDocuments where
  /-- The source that is compiled. -/
  primary : Uri
  /-- The document in which the listing is shown. -/
  assembly : Uri
deriving DecidableEq, Inhabited

/-- The visible editors that concern a view. -/
structure VisibleSet where
  /-- The editor of the listing. -/
  assembly : Option Editor
  /-- The editors of the sources, in order. -/
  sources : List Editor
deriving DecidableEq, Inhabited

namespace VisibleSet

/-- Whether the listing and at least one source are visible. -/
def isActive (v : VisibleSet) : Bool :=
  v.assembly.isSome && !v.sources.isEmpty

/-- The first editor of a source. -/
def sourceFor? (v : VisibleSet) (document : Uri) : Option Editor :=
  v.sources.find? (·.document == document)

/-- All editors: those of the sources, then that of the listing. -/
def editors (v : VisibleSet) : List Editor :=
  v.sources ++ v.assembly.toList

end VisibleSet

namespace ViewDocuments

/-- Whether a document is a source of the view. -/
def isSource (docs : ViewDocuments) (unit : Option UnitState) (document : Uri) : Bool :=
  match unit.bind UnitState.unit? with
  | some u => u.references document
  | none => document == docs.primary

/-- The editors among the given ones that concern the view. -/
def classify (docs : ViewDocuments) (editors : List Editor) (unit : Option UnitState) :
    VisibleSet :=
  { assembly := editors.find? (·.document == docs.assembly)
    sources := editors.filter fun e =>
      e.document != docs.assembly && docs.isSource unit e.document }

end ViewDocuments

end AsmExplorer
