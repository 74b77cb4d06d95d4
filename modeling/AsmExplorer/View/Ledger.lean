import AsmExplorer.Editor.Host

/-!
# The decoration ledger

What a view has put on each editor, so that a decoration which is in place is not put there again.
Editors are told apart by document and column.  When the set of visible editors changes the ledger
is emptied, because an editor that leaves the screen loses its decorations.
-/

namespace AsmExplorer

/-- A place for decorations: a document, the column it stands in, and the kind of decoration. -/
abbrev DecorationSlot := Uri × Option UInt8 × DecorationKind

/-- The lines put on each slot. -/
structure Ledger where
  /-- The lines by slot, the latest first. -/
  applied : List (DecorationSlot × List Nat) := []
deriving Inhabited

namespace Ledger

/-- The slot of an editor. -/
def slot (e : Editor) (kind : DecorationKind) : DecorationSlot :=
  (e.document, e.column, kind)

/-- The lines that are in place. -/
def get? (l : Ledger) (s : DecorationSlot) : Option (List Nat) :=
  l.applied.lookup s

/-- Notes the lines put on a slot. -/
def put (l : Ledger) (s : DecorationSlot) (lines : List Nat) : Ledger :=
  ⟨(s, lines) :: l.applied.filter (·.1 != s)⟩

end Ledger

end AsmExplorer
