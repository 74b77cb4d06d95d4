import AsmExplorer.Proofs.View.Puts
import AsmExplorer.View.Registry

/-!
# The reactions of a view

Each reaction of a view sets its phase, its unit, its ledger or its last selection, puts lists of
decorations in place, and scrolls.  The equations `Synced.refresh_eq`, `Synced.onUnitChanged_eq`,
`Synced.onVisibleEditorsChanged_eq` and `Synced.dispose_eq` say this for the reactions that make no
other requests.

A selection in the listing may have the view ask for a document, and then everything depends on what
the host does.  `Synced.onSelectionChangedBy` is the reaction to a selection for whatever the host
does (an `Opener`), of which the reaction of the model is a case (`Synced.onSelectionChanged_eq`),
and `Synced.Selects` lists what can come of it.
-/

namespace AsmExplorer

/-- What the host does when it is asked for a document in a column: what becomes of it, and the
editor that it gives, if any. -/
abbrev Opener := Uri → UInt8 → Host → Host × Option Editor

/-- Opening a source as the host of the model does. -/
def Host.openSource : Opener :=
  fun document column h => h.showDocument document (some column) true

theorem Host.calls_showDocument (h : Host) (document : Uri) (column : Option UInt8)
    (preserveFocus : Bool) : (h.showDocument document column preserveFocus).1.calls =
      .show document column preserveFocus :: h.calls := by
  unfold showDocument
  dsimp only
  split
  · rfl
  · split <;> rfl

/-- An editor is opened as the last visible one. -/
structure Host.Opens (h h' : Host) (e : Editor) : Prop where
  /-- The editor takes the place of any other with its name. -/
  editors : h'.editors = e :: h.editors.filter (·.id != e.id)
  /-- The editor is the last visible one. -/
  visible : h'.visible = h.visible ++ [e.id]

/-- A document that is asked for is refused, visible already, or opened. -/
theorem Host.showDocument_spec (h : Host) (document : Uri) (column : Option UInt8)
    (preserveFocus : Bool) :
    let answer := h.showDocument document column preserveFocus
    answer.1.editors = h.editors ∧ answer.1.visible = h.visible ∧
        (∀ e, answer.2 = some e → e ∈ h.visibleEditors ∧ e.document = document) ∨
      ∃ e, answer.2 = some e ∧ e.document = document ∧ h.Opens answer.1 e := by
  have hvisible :
      (h.call (.show document column preserveFocus)).visibleEditors = h.visibleEditors := rfl
  unfold showDocument
  dsimp only
  split
  · exact .inl ⟨rfl, rfl, by simp⟩
  · rw [hvisible]
    cases hfound : h.visibleEditors.find? (·.document == document) with
    | some e =>
      refine .inl ⟨rfl, rfl, fun e' he' => ?_⟩
      obtain rfl := Option.some.inj he'
      exact ⟨List.mem_of_find?_eq_some hfound, by simpa using List.find?_some hfound⟩
    | none => exact .inr ⟨_, rfl, rfl, rfl, rfl⟩

namespace VisibleSet

/-- What an active view puts in place when other editors are visible. -/
def renewals (v : VisibleSet) (settings : SyncSettings) : Option UnitState → List Put
  | none => v.loadingPuts
  | some (.failed _) => []
  | some (.compiled unit) => v.dimPuts settings unit

variable {v : VisibleSet} {settings : SyncSettings}

theorem mem_decorations_of_mem_renewals {state : Option UnitState} {last : Option Selection}
    {p : Put} (h : p ∈ v.renewals settings state) : p ∈ v.decorations settings last state := by
  cases state with
  | none => exact h
  | some state =>
    cases state with
    | failed _ => cases h
    | compiled unit => exact List.mem_append_left _ h

end VisibleSet

namespace Synced

variable {s : Synced}

/-! ### Reactions that only decorate -/

theorem phase_updatePhase_eq_active_iff {v : VisibleSet} :
    (s.updatePhase v).sync.phase = .active ↔ v.isActive = true := by
  unfold updatePhase
  dsimp only
  split <;> simp [*]

theorem refresh_eq : s.refresh = ((s.updatePhase s.visible).putAll s.visible.blanks).putAll
    (if s.visible.isActive then
      s.visible.decorations s.sync.settings s.sync.last s.sync.unit else []) := by
  unfold refresh
  dsimp only
  rw [clear_eq, phase_putAll]
  by_cases h : s.visible.isActive
  · rw [if_pos (phase_updatePhase_eq_active_iff.2 h), if_pos h, decorate_eq, settings_putAll,
      last_putAll, unit_putAll]
    rfl
  · rw [if_neg (mt phase_updatePhase_eq_active_iff.1 h), if_neg h, putAll_nil]

theorem onUnitChanged_eq (state : UnitState) : s.onUnitChanged state =
    { s.putAll s.visible.blanks with
      sync.unit := some state : Synced }.refresh := by
  unfold onUnitChanged
  rw [clear_eq]

/-- What a view puts in place when it is told that other editors are visible. -/
def updates (s : Synced) : List Put :=
  if s.visible.isActive then
    match s.sync.phase with
    | .inactive => s.visible.decorations s.sync.settings s.sync.last s.sync.unit
    | .active => s.visible.renewals s.sync.settings s.sync.unit
  else s.visible.blanks

theorem mem_decorations_of_mem_updates {p : Put} (hactive : s.visible.isActive = true)
    (h : p ∈ s.updates) :
    p ∈ s.visible.decorations s.sync.settings s.sync.last s.sync.unit := by
  rw [updates, if_pos hactive] at h
  split at h
  · exact h
  · exact VisibleSet.mem_decorations_of_mem_renewals h

theorem mem_editors_of_mem_updates {p : Put} (h : p ∈ s.updates) :
    p.editor ∈ s.visible.editors := by
  by_cases hactive : s.visible.isActive = true
  · exact VisibleSet.mem_editors_of_mem_decorations (mem_decorations_of_mem_updates hactive h)
  · rw [updates, if_neg hactive] at h
    exact (VisibleSet.mem_blanks_iff.1 h).1

/-- The ledger is emptied first, so everything is put in place. -/
theorem onVisibleEditorsChanged_eq : s.onVisibleEditorsChanged =
    ({ s with sync.ledger := {} : Synced }.updatePhase s.visible).putAll s.updates := by
  have hvisible : ({ s with sync.ledger := {} } : Synced).visible = s.visible := rfl
  unfold onVisibleEditorsChanged updates
  simp only [hvisible]
  by_cases hactive : s.visible.isActive = true
  · simp only [phase_updatePhase_eq_active_iff.2 hactive, if_pos hactive]
    cases s.sync.phase with
    | inactive => exact decorate_eq
    | active =>
      dsimp only [updatePhase]
      unfold VisibleSet.renewals
      cases s.sync.unit with
      | none => exact showLoading_eq
      | some state =>
        cases state with
        | failed _ => rfl
        | compiled unit => exact dimUnused_eq
  · simp only [updatePhase, if_neg hactive, clear_eq]

theorem dispose_eq : s.dispose = { s.putAll s.visible.blanks with sync.phase := .inactive } := by
  unfold dispose
  rw [clear_eq]

/-! ### Selections -/

/-- The reaction to a selection in a view that is active and has a listing. -/
structure Attends (s : Synced) (change : SelectionChange) (unit : CompiledUnit) : Prop where
  /-- Somebody made the selection. -/
  deliberate : change.kind.isSome = true
  /-- The view is active. -/
  active : s.sync.phase = .active
  /-- The view has the listing. -/
  compiled : s.compiled? = some unit

/-- The view after asking the host for a source, and the editor that the host gave. -/
def asked (opener : Opener) (v : VisibleSet) (document : Uri) (s : Synced) :
    Synced × Option Editor :=
  let column := columnForSources v
  let answer := opener document column s.host
  let call : HostCall := .show document (some column) true
  ({ s.record call with host := { answer.1 with calls := call :: s.host.calls } }, answer.2)

/-- The editor of a source: a visible one, or else the one that the host gives. -/
def sourceEditorBy (opener : Opener) (v : VisibleSet) (document : Uri) (s : Synced) :
    Synced × Option Editor :=
  match v.sourceFor? document with
  | some e => (s, some e)
  | none => s.asked opener v document

/-- The reaction to a selection, for whatever the host does when it is asked for a document. -/
def onSelectionChangedBy (opener : Opener) (change : SelectionChange) (s : Synced) : Synced :=
  match change.kind, s.sync.phase, s.compiled? with
  | some _, .active, some unit =>
    let v := s.visible
    let document := change.editor.document
    if unit.references document then
      { s with sync.last := some (.source document change.line) }.selectSource unit v change.editor
        change.line true
    else if document = s.sync.docs.assembly then
      let s := { s with sync.last := some (.assembly change.line) }
      let s := s.highlightAssembly unit v change.editor change.line
      match unit.definitionAt? change.line with
      | none => s
      | some target =>
        match s.sourceEditorBy opener v target.file with
        | (s, some e) => s.highlightTarget e target true
        | (s, none) => s
    else s
  | _, _, _ => s

theorem sourceEditor_eq (v : VisibleSet) (document : Uri) :
    s.sourceEditor v document = s.sourceEditorBy Host.openSource v document := by
  unfold sourceEditor sourceEditorBy asked Host.openSource
  cases v.sourceFor? document with
  | some e => rfl
  | none =>
    dsimp only
    rw [← Host.calls_showDocument]

/-- The reaction of the model is the one for the host of the model. -/
theorem onSelectionChanged_eq (change : SelectionChange) :
    s.onSelectionChanged change = s.onSelectionChangedBy Host.openSource change := by
  simp only [onSelectionChanged, sourceEditor_eq]
  rfl

/-- The reaction to a command, for whatever the host does when it is asked for a document. -/
def handleBy (opener : Opener) (s : Synced) : ViewCommand → Synced
  | .selection change => s.onSelectionChangedBy opener change
  | command => s.handle command

theorem handle_eq (command : ViewCommand) :
    s.handle command = s.handleBy Host.openSource command := by
  cases command with
  | selection change => exact onSelectionChanged_eq change
  | refresh | unit _ | visibleEditorsChanged | close => rfl

/-- The view after a line of its listing was selected. -/
def lineSelected (s : Synced) (unit : CompiledUnit) (change : SelectionChange) : Synced :=
  { s with sync.last := some (.assembly change.line) }.putAll
    (s.visible.assemblyPuts unit change.editor change.line)

@[simp] theorem last_lineSelected {unit : CompiledUnit} {change : SelectionChange} :
    (s.lineSelected unit change).sync.last = some (.assembly change.line) :=
  last_putAll _

/-- **What can come of a selection**, for whatever the host does when it is asked for a document. -/
inductive Selects (opener : Opener) (s : Synced) (change : SelectionChange) : Synced → Prop
  /-- Nobody made the selection, or the view is not active, has no listing, or does not show the
  document. -/
  | ignored (h : ∀ unit, s.Attends change unit →
      unit.references change.editor.document = false ∧
        change.editor.document ≠ s.sync.docs.assembly) : Selects opener s change s
  /-- A line of a source is selected. -/
  | source {unit : CompiledUnit} (h : s.Attends change unit)
      (hsource : unit.references change.editor.document = true) :
      Selects opener s change
        ({ s with sync.last := some (.source change.editor.document change.line) }.selectSource unit
          s.visible change.editor change.line true)
  /-- A line of the listing is selected that came from no source line. -/
  | unmapped {unit : CompiledUnit} (h : s.Attends change unit)
      (hassembly : change.editor.document = s.sync.docs.assembly)
      (hline : unit.definitionAt? change.line = none) :
      Selects opener s change (s.lineSelected unit change)
  /-- The source line that a line of the listing came from is visible. -/
  | mapped {unit : CompiledUnit} {target : SourceLine} {e : Editor} (h : s.Attends change unit)
      (hassembly : change.editor.document = s.sync.docs.assembly)
      (hline : unit.definitionAt? change.line = some target)
      (he : s.visible.sourceFor? target.file = some e) :
      Selects opener s change ((s.lineSelected unit change).highlightTarget e target true)
  /-- The source of a line of the listing is not visible, and the host does not open it. -/
  | refused {unit : CompiledUnit} {target : SourceLine} (h : s.Attends change unit)
      (hassembly : change.editor.document = s.sync.docs.assembly)
      (hline : unit.definitionAt? change.line = some target)
      (hnone : s.visible.sourceFor? target.file = none)
      (hanswer : ((s.lineSelected unit change).asked opener s.visible target.file).2 = none) :
      Selects opener s change ((s.lineSelected unit change).asked opener s.visible target.file).1
  /-- The source of a line of the listing is not visible, and the host opens it. -/
  | opened {unit : CompiledUnit} {target : SourceLine} {e : Editor} (h : s.Attends change unit)
      (hassembly : change.editor.document = s.sync.docs.assembly)
      (hline : unit.definitionAt? change.line = some target)
      (hnone : s.visible.sourceFor? target.file = none)
      (hanswer : ((s.lineSelected unit change).asked opener s.visible target.file).2 = some e) :
      Selects opener s change
        (((s.lineSelected unit change).asked opener s.visible target.file).1.highlightTarget e
          target true)

theorem selects (opener : Opener) (change : SelectionChange) :
    s.Selects opener change (s.onSelectionChangedBy opener change) := by
  unfold onSelectionChangedBy
  split
  · rename_i kind unit hkind hactive hcompiled
    have h : s.Attends change unit := ⟨by rw [hkind]; rfl, hactive, hcompiled⟩
    have hunique : ∀ unit', s.Attends change unit' → unit' = unit := fun unit' h' =>
      Option.some.inj (h'.compiled.symm.trans hcompiled)
    dsimp only
    split
    · exact .source h ‹_›
    · rename_i hsource
      split
      · rename_i hassembly
        rw [highlightAssembly_eq]
        change Selects opener s change (match unit.definitionAt? change.line with
          | none => s.lineSelected unit change
          | some target => match (s.lineSelected unit change).sourceEditorBy opener s.visible
              target.file with
            | (s, some e) => s.highlightTarget e target true
            | (s, none) => s)
        cases hline : unit.definitionAt? change.line with
        | none => exact .unmapped h hassembly hline
        | some target =>
          dsimp only
          unfold sourceEditorBy
          cases hfor : s.visible.sourceFor? target.file with
          | some e => exact .mapped h hassembly hline hfor
          | none =>
            dsimp only
            cases hanswer : (s.lineSelected unit change).asked opener s.visible target.file with
            | mk t answer =>
              cases answer with
              | none =>
                have hrefused := Selects.refused h hassembly hline hfor (congrArg Prod.snd hanswer)
                rwa [hanswer] at hrefused
              | some e =>
                have hopened := Selects.opened h hassembly hline hfor (congrArg Prod.snd hanswer)
                rwa [hanswer] at hopened
      · rename_i hassembly
        refine .ignored fun unit' h' => ?_
        rw [hunique unit' h']
        exact ⟨by simpa using hsource, hassembly⟩
  · rename_i hnot
    refine .ignored fun unit' h' => ?_
    obtain ⟨kind, hkind⟩ := Option.isSome_iff_exists.1 h'.deliberate
    exact absurd h'.compiled (hnot kind unit' hkind h'.active)

end Synced

end AsmExplorer
