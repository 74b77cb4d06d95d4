import AsmExplorer.Proofs.Listing.Correspondence
import AsmExplorer.Proofs.View.Current
import AsmExplorer.Proofs.View.Navigation
import AsmExplorer.Proofs.View.Toggle

/-!
# Dimming is exact

An active view with a listing dims, on every visible source, the lines that nothing in the listing
came from (`Scene.dimming_exact`).  The dimmed lines are put in place when the view becomes active,
when a new unit comes and when the view is told of a change of the visible editors; lines that a
document gains in between have to wait for the next of these (`Scene.grown_source_keeps_marks`).

The ledger has to be exact for dimmed lines only (`Synced.ExactFor`), and selections put none
(`Synced.KeepsMarks`).  So it does not matter here whether selections are made in visible editors,
or how many editors show the listing.
-/

namespace AsmExplorer

namespace Synced

variable {base base' : Screen} {s t u : Synced} {puts : List Put} {reveals : List (Editor × Nat)}

/-! ### Selections -/

/-- Of the decorations only selected lines have changed, and neither the unit nor the phase nor what
was chosen when the view was opened. -/
structure KeepsMarks (s t : Synced) : Prop where
  /-- The documents and the settings are the same. -/
  given : t.given = s.given
  /-- The unit is the same. -/
  unit : t.sync.unit = s.sync.unit
  /-- The phase is the same. -/
  phase : t.sync.phase = s.sync.phase
  /-- The ledger has the same marks. -/
  ledger : ∀ e kind, kind ≠ .selected →
    t.sync.ledger.get? (Ledger.slot e kind) = s.sync.ledger.get? (Ledger.slot e kind)
  /-- The screen has the same marks. -/
  screen : ∀ base id kind, kind ≠ .selected → t.screen base id kind = s.screen base id kind

theorem keepsMarks_remember (last : Option Selection) :
    s.KeepsMarks { s with sync.last := last } :=
  ⟨rfl, rfl, rfl, fun _ _ _ => rfl, fun _ _ _ _ => rfl⟩

theorem keepsMarks_asked (opener : Opener) (v : VisibleSet) (document : Uri) :
    s.KeepsMarks (s.asked opener v document).1 :=
  ⟨rfl, rfl, rfl, fun _ _ _ => rfl, fun _ _ _ _ => rfl⟩

namespace KeepsMarks

theorem refl (s : Synced) : s.KeepsMarks s :=
  keepsMarks_remember s.sync.last

theorem trans (h : s.KeepsMarks t) (h' : t.KeepsMarks u) : s.KeepsMarks u where
  given := h'.given.trans h.given
  unit := h'.unit.trans h.unit
  phase := h'.phase.trans h.phase
  ledger e kind hkind := (h'.ledger e kind hkind).trans (h.ledger e kind hkind)
  screen base id kind hkind := (h'.screen base id kind hkind).trans (h.screen base id kind hkind)

theorem apply (h : s.KeepsMarks t) (e : Editor) (lines : List Nat) :
    s.KeepsMarks (t.apply e .selected lines) := by
  have hrest : (t.apply e .selected lines).rest = t.rest := rest_apply _ _
  have hgiven : (t.apply e .selected lines).rest.given = t.rest.given := by rw [hrest]
  refine h.trans ⟨hgiven, congrArg (·.sync.unit) hrest, congrArg (·.sync.phase) hrest, ?_, ?_⟩
  · intro e' kind hkind
    rw [get?_apply, if_neg]
    exact fun hslot => hkind (Prod.mk.inj (Prod.mk.inj hslot).2).2
  · intro base id kind hkind
    rw [screen_apply]
    split
    · rfl
    · exact Screen.set_of_ne fun heq => hkind heq.2

theorem putAll (h : s.KeepsMarks t) (hputs : ∀ p ∈ puts, p.kind = .selected) :
    s.KeepsMarks (t.putAll puts) := by
  induction puts generalizing t with
  | nil => exact h
  | cons p puts ih =>
    rw [putAll_cons, hputs p List.mem_cons_self]
    exact ih (h.apply p.editor p.lines) fun q hq => hputs q (List.mem_cons_of_mem _ hq)

theorem revealAll (h : s.KeepsMarks t) : s.KeepsMarks (t.revealAll reveals) := by
  have hsync : (t.revealAll reveals).sync = t.sync := sync_revealAll
  refine h.trans ⟨?_, ?_, ?_, fun _ _ _ => ?_, fun _ _ _ _ => ?_⟩
  · simp only [Synced.given, hsync]
  · rw [hsync]
  · rw [hsync]
  · rw [hsync]
  · rw [screen_revealAll]

theorem selectSource {unit : CompiledUnit} {v : VisibleSet} {e : Editor} {line : Nat}
    {scroll : Bool} (h : s.KeepsMarks t) :
    s.KeepsMarks (t.selectSource unit v e line scroll) := by
  rw [selectSource_eq]
  exact (h.putAll fun p hp => (VisibleSet.of_mem_sourcePuts hp).1).revealAll

theorem highlightTarget {e : Editor} {target : SourceLine} {scroll : Bool} (h : s.KeepsMarks t) :
    s.KeepsMarks (t.highlightTarget e target scroll) := by
  rw [highlightTarget_eq]
  refine (h.putAll fun p hp => ?_).revealAll
  rw [(VisibleSet.mem_targetPuts_iff.1 hp).2]

end KeepsMarks

theorem keepsMarks_lineSelected {unit : CompiledUnit} {change : SelectionChange} :
    s.KeepsMarks (s.lineSelected unit change) :=
  (keepsMarks_remember _).putAll fun _ hp => (VisibleSet.of_mem_assemblyPuts hp).1

/-- **A selection changes selected lines only**, whatever the host does when it is asked for a
document. -/
theorem keepsMarks_selection (opener : Opener) (change : SelectionChange) :
    s.KeepsMarks (s.onSelectionChangedBy opener change) := by
  have hselects := selects (s := s) opener change
  generalize s.onSelectionChangedBy opener change = t at hselects
  cases hselects with
  | ignored _ => exact .refl s
  | source _ _ => exact (keepsMarks_remember _).selectSource
  | unmapped _ _ _ => exact keepsMarks_lineSelected
  | mapped _ _ _ _ => exact keepsMarks_lineSelected.highlightTarget
  | refused _ _ _ _ _ => exact keepsMarks_lineSelected.trans (keepsMarks_asked ..)
  | opened _ _ _ _ _ =>
    exact (keepsMarks_lineSelected.trans (keepsMarks_asked ..)).highlightTarget

/-! ### Dimmed sources -/

/-- The ledger knows the dimmed lines of the visible editors, and an active view with a listing dims
the unused lines of its sources, which are as long as it has seen them. -/
structure Dimmed (base : Screen) (seen : Host) (s : Synced) : Prop where
  /-- The ledger is exact for dimmed lines. -/
  exact : s.ExactFor base .unused
  /-- The visible editors stand where they were seen. -/
  places : seen.place? = s.host.place?
  /-- The unused lines of the sources are dimmed. -/
  dims : s.sync.settings.dimUnusedSourceLines = true → s.sync.phase = .active →
    ∀ unit, s.compiled? = some unit → ∀ e ∈ (s.seeing seen).visible.sources,
      s.screen base e.id .unused = unit.index.unusedLines e.document e.lineCount

theorem ExactFor.putVisible {kind : DecorationKind} (h : s.ExactFor base kind)
    (hd : s.host.Separate) (hputs : ∀ p ∈ puts, p.editor ∈ s.visible.editors) :
    (s.putAll puts).ExactFor base kind :=
  (h.putAll hd fun p hp _ => shows_of_mem_editors (hputs p hp)).2

theorem ExactFor.blanks {kind : DecorationKind} (h : s.ExactFor base kind)
    (hd : s.host.Separate) : (s.putAll s.visible.blanks).ExactFor base kind :=
  h.putVisible hd fun _ hp => (VisibleSet.mem_blanks_iff.1 hp).1

/-- A view that puts its decorations in place, or renews some of them, dims its sources. -/
theorem ExactFor.dimmed (h : s.ExactFor base .unused) (hd : s.host.Separate)
    (hputs : ∀ p ∈ puts, p ∈ s.visible.decorations s.sync.settings s.sync.last s.sync.unit)
    (hall : ∀ p ∈ s.visible.renewals s.sync.settings s.sync.unit, p ∈ puts) :
    (s.putAll puts).Dimmed base s.host := by
  obtain ⟨hscreen, hexact⟩ := h.putAll hd fun p hp _ =>
    shows_of_mem_editors (VisibleSet.mem_editors_of_mem_decorations (hputs p hp))
  refine ⟨hexact, place?_putAll.symm, fun hdim _ unit hcompiled e he => ?_⟩
  rw [settings_putAll] at hdim
  rw [compiled?_eq_some_iff, unit_putAll] at hcompiled
  have hvisible : ((s.putAll puts).seeing s.host).visible = s.visible :=
    visible_congr docs_putAll (unit_putAll _) rfl
  rw [hvisible] at he
  rw [hscreen]
  refine Screen.putAll_of_forall_eq (fun p hp hkind hid => ?_) (.inr ?_)
  · obtain ⟨hnone, -⟩ | ⟨unit', hunit', ⟨-, he', -, hlines⟩ | ⟨-, -, hkind'⟩⟩ :=
      VisibleSet.of_mem_decorations (hputs p hp)
    · simp [hcompiled] at hnone
    · obtain rfl : unit = unit' := by simpa [hcompiled] using hunit'
      rw [hlines, Host.eq_of_id_eq (mem_sources_iff.1 he').1 (mem_sources_iff.1 he).1 hid]
    · rw [hkind] at hkind'
      cases hkind'
  · exact ⟨_, hall _ (VisibleSet.mem_renewals_iff.2 (.inr ⟨unit, hcompiled, hdim, e, he, rfl⟩)),
      rfl, rfl⟩

/-- Nothing changes as long as the places and the dimmed lines are the same. -/
theorem Dimmed.of_host {seen : Host} (h : s.Dimmed base seen) (hgiven : t.given = s.given)
    (hunit : t.sync.unit = s.sync.unit) (hphase : t.sync.phase = s.sync.phase)
    (hledger : ∀ e, t.sync.ledger.get? (Ledger.slot e .unused) =
      s.sync.ledger.get? (Ledger.slot e .unused))
    (hplace : t.host.place? = s.host.place?)
    (hscreen : ∀ id, t.screen base' id .unused = s.screen base id .unused) :
    t.Dimmed base' seen where
  exact := h.exact.of_host hledger hplace hscreen
  places := h.places.trans hplace.symm
  dims hdim hactive unit hcompiled e he := by
    obtain ⟨hdocs, hsettings⟩ := Prod.mk.inj hgiven
    have hvisible : (t.seeing seen).visible = (s.seeing seen).visible :=
      visible_congr hdocs hunit rfl
    rw [hvisible] at he
    rw [compiled?, hunit] at hcompiled
    rw [hscreen]
    exact h.dims (hsettings ▸ hdim) (hphase ▸ hactive) unit hcompiled e he

theorem Dimmed.of_seen {seen seen' : Host} (h : s.Dimmed base seen')
    (hplace : seen'.place? = seen.place?)
    (heditors : seen'.visibleEditors = seen.visibleEditors) : s.Dimmed base seen where
  exact := h.exact
  places := hplace.symm.trans h.places
  dims hdim hactive unit hcompiled e he := by
    have hvisible : (s.seeing seen').visible = (s.seeing seen).visible :=
      visible_congr rfl rfl heditors
    exact h.dims hdim hactive unit hcompiled e (hvisible ▸ he)

theorem ExactFor.dimmed_refresh (h : s.ExactFor base .unused) (hd : s.host.Separate) :
    s.refresh.Dimmed base s.host := by
  have hphase : (s.updatePhase s.visible).ExactFor base .unused :=
    h.of_host (fun _ => rfl) rfl fun _ => rfl
  have hcleared := hphase.blanks hd
  by_cases hactive : s.visible.isActive = true
  · rw [refresh_eq, if_pos hactive]
    refine (hcleared.dimmed (separate_putAll.2 hd) (fun p hp => ?_) fun p hp => ?_).of_seen
      place?_putAll visibleEditors_putAll
    · rwa [visible_putAll, settings_putAll, last_putAll, unit_putAll]
    · rw [visible_putAll, settings_putAll, unit_putAll] at hp
      exact VisibleSet.mem_decorations_of_mem_renewals hp
  · have hinactive := mt phase_refresh_eq_active_iff.1 hactive
    refine ⟨?_, place?_refresh.symm, fun _ hphase => absurd hphase hinactive⟩
    rw [refresh_eq, if_neg hactive]
    exact hcleared

theorem ExactFor.dimmed_onUnitChanged (h : s.ExactFor base .unused) (hd : s.host.Separate)
    (state : UnitState) : (s.onUnitChanged state).Dimmed base s.host := by
  have hreplaced :
      { s.putAll s.visible.blanks with sync.unit := some state : Synced }.ExactFor base .unused :=
    (h.blanks hd).of_host (fun _ => rfl) rfl fun _ => rfl
  rw [onUnitChanged_eq]
  exact (hreplaced.dimmed_refresh (separate_putAll.2 hd)).of_seen place?_putAll
    visibleEditors_putAll

theorem Dimmed.dispose {seen : Host} (h : s.Dimmed base seen) (hd : s.host.Separate) :
    s.dispose.Dimmed base seen := by
  rw [dispose_eq]
  refine ⟨(h.exact.blanks hd).of_host (fun _ => rfl) rfl fun _ => rfl,
    h.places.trans place?_putAll.symm, fun _ hactive => ?_⟩
  cases hactive

/-- A view that is told of a change dims its sources, whatever its ledger had. -/
theorem dimmed_onVisibleEditorsChanged (hd : s.host.Separate) :
    s.onVisibleEditorsChanged.Dimmed base s.host := by
  have hempty : ({ s with sync.ledger := {} : Synced }.updatePhase s.visible).ExactFor base
      .unused := (Exactly.of_empty rfl).exactFor .unused
  by_cases hactive : s.visible.isActive = true
  · rw [onVisibleEditorsChanged_eq]
    refine hempty.dimmed hd (fun p hp => ?_) fun p hp => ?_
    · exact mem_decorations_of_mem_updates (s := s) hactive hp
    · rw [updates, if_pos hactive]
      split
      · exact VisibleSet.mem_decorations_of_mem_renewals hp
      · exact hp
  · have hinactive := mt phase_onVisibleEditorsChanged_eq_active_iff.1 hactive
    refine ⟨?_, place?_onVisibleEditorsChanged.symm, fun _ hphase => absurd hphase hinactive⟩
    rw [onVisibleEditorsChanged_eq]
    exact hempty.putVisible hd fun p hp => mem_editors_of_mem_updates (s := s) hp

/-- A selection that opens no editor leaves the sources dimmed. -/
theorem Dimmed.selection {seen : Host} (h : s.Dimmed base seen) (opener : Opener)
    (change : SelectionChange)
    (hplace : (s.onSelectionChangedBy opener change).host.place? = s.host.place?) :
    (s.onSelectionChangedBy opener change).Dimmed base seen := by
  have hkeeps := keepsMarks_selection (s := s) opener change
  exact h.of_host hkeeps.given hkeeps.unit hkeeps.phase
    (fun e => hkeeps.ledger e .unused (by decide)) hplace
    fun id => hkeeps.screen base id .unused (by decide)

end Synced

namespace Scene

variable {s : Scene} {event : Event} {events : List Event}

/-- The sources are dimmed unless the view is still to be told of a change, or two visible editors
stand in the same place. -/
def Dimmed (s : Scene) : Prop :=
  s.news = false → s.view.host.Separate → s.view.Dimmed s.base s.seen

theorem dimmed_initial (docs : ViewDocuments) (settings : SyncSettings) (host : Host) :
    (initial docs settings host).Dimmed :=
  fun _ _ => ⟨(Synced.Exactly.of_empty rfl).exactFor .unused, rfl,
    fun _ hactive => nomatch hactive⟩

/-- **Every event keeps sources dimmed.** -/
theorem Dimmed.after (h : s.Dimmed) : (s.after event).Dimmed := by
  intro hnews hd
  by_cases hevent : event = .command .visibleEditorsChanged
  · subst hevent
    -- the view sees what was visible before the command
    exact Synced.dimmed_onVisibleEditorsChanged
      ((Host.separate_congr Synced.place?_onVisibleEditorsChanged).1 hd)
  · obtain ⟨hbefore, hplace⟩ := of_news_eq_false hevent hnews
    have hd' : s.view.host.Separate := (Host.separate_congr hplace).1 hd
    have hdimmed := h hbefore hd'
    cases event with
    | command command =>
      cases command with
      | refresh => exact hdimmed.exact.dimmed_refresh hd'
      | unit state => exact hdimmed.exact.dimmed_onUnitChanged hd' state
      | selection change =>
        rw [view_command, Synced.handle_eq] at hplace
        rw [view_command, Synced.handle_eq]
        exact hdimmed.selection Host.openSource change hplace
      | visibleEditorsChanged => exact absurd rfl hevent
      | close => exact hdimmed.dispose hd'
    | host host =>
      have hscreen := screen_host_of_place? hplace
      exact hdimmed.of_host rfl rfl rfl (fun _ => rfl) hplace
        fun id => congrFun (congrFun hscreen id) .unused

theorem Dimmed.afterAll (h : s.Dimmed) : (s.afterAll events).Dimmed := by
  induction events generalizing s with
  | nil => exact h
  | cons event events ih => exact ih h.after

/-- **Dimming is exact.**  After every run of a view that dims unused lines, once the view was told
of the latest change of the visible editors, and if no two of them stand in the same place: while
the view is active and has a listing, the dimmed lines of a visible source are those of its lines
that no line of the listing came from, in ascending order, provided that some line of the listing
came from the document at all; otherwise there are none.  The source counts as long as it was when
the view last put its marks on the visible editors. -/
theorem dimming_exact (docs : ViewDocuments) (settings : SyncSettings) (host : Host)
    (events : List Event) (unit : CompiledUnit) (e : Editor)
    (hdim : settings.dimUnusedSourceLines = true) :
    let s := (initial docs settings host).afterAll events
    s.news = false → s.Distinct → s.view.sync.phase = .active → s.view.compiled? = some unit →
      e ∈ s.view.host.visibleEditors → e.document ≠ docs.assembly →
      unit.references e.document = true →
        ∃ seen ∈ s.seen.visibleEditors,
          seen.id = e.id ∧ seen.document = e.document ∧ seen.column = e.column ∧
          (s.screen e.id .unused).Pairwise (· < ·) ∧
          ∀ line, line ∈ s.screen e.id .unused ↔ line < seen.lineCount ∧
            (∃ k target, unit.definitionAt? k = some target ∧ target.file = e.document) ∧
              ∀ k target, unit.definitionAt? k = some target → target.file = e.document →
                target.line ≠ line := by
  intro s hnews hd hactive hcompiled he hassembly hsource
  have hgiven : s.view.given = (docs, settings) := given_afterAll _ events
  obtain ⟨hdocs, hsettings⟩ := Prod.mk.inj hgiven
  have hdimmed : s.view.Dimmed s.base s.seen :=
    (dimmed_initial docs settings host).afterAll hnews (Host.Distinct.separate hd)
  obtain ⟨seen, hseen, hid, hdocument, hcolumn⟩ :=
    Host.exists_mem_of_place?_eq hdimmed.places he
  have hmem : seen ∈ (s.view.seeing s.seen).visible.sources := by
    have hunit : s.view.sync.unit.bind UnitState.unit? = some unit := hcompiled
    refine Synced.mem_sources_iff.2 ⟨hseen, ?_, ?_⟩
    · rw [hdocument]
      exact hdocs ▸ hassembly
    · rw [hdocument, ViewDocuments.isSource]
      exact hunit ▸ hsource
  have hscreen : s.screen e.id .unused = unit.index.unusedLines e.document seen.lineCount := by
    rw [← hid, ← hdocument]
    exact hdimmed.dims (by rwa [hsettings]) hactive unit hcompiled seen hmem
  refine ⟨seen, hseen, hid, hdocument, hcolumn, ?_⟩
  rw [hscreen]
  refine ⟨LineIndex.pairwise_unusedLines _ _ _, fun line => ?_⟩
  rw [unit.index_eq, LineIndex.mem_unusedLines_build_iff]
  simp only [CompiledUnit.definitionAt?, unit.index_eq]

/-- A header that is opened on account of a selection is dimmed once the view was told: of its ten
lines only the first is in the listing. -/
theorem opened_header_dimmed :
    let s := (initial exampleDocs {} headerClosed).afterAll
      (compiledRun ++ [select listingEditor 1, .command .visibleEditorsChanged])
    openedHeader ∈ s.view.host.visibleEditors ∧
      s.screen openedHeader.id .unused = [1, 2, 3, 4, 5, 6, 7, 8, 9] ∧
      0 ∉ s.screen openedHeader.id .unused ∧ 9 ∈ s.screen openedHeader.id .unused := by
  intro s
  have hvisible : openedHeader ∈ s.view.host.visibleEditors := by decide +kernel
  have hcompiled : s.view.compiled? = some exampleUnit := by
    rw [Synced.compiled?_eq_some_iff]
    simp only [s, afterAll_append, afterAll, view_command, Synced.unit_handle, select]
    exact Synced.compiled?_eq_some_iff.1 (compiled?_compiledRun headerClosed)
  have hlines : ∀ k target, exampleUnit.definitionAt? k = some target →
      target.file = exampleHeader → target.line = 0 := by
    intro k target hk hfile
    obtain _ | _ | k := k
    · obtain rfl := Option.some.inj hk
      cases hfile
    · obtain rfl := Option.some.inj hk
      rfl
    · cases hk
  obtain ⟨seen, hseen, hid, -, -, -, hiff⟩ := dimming_exact exampleDocs {} headerClosed
    (compiledRun ++ [select listingEditor 1, .command .visibleEditorsChanged]) exampleUnit
    openedHeader rfl (by decide +kernel) (by decide +kernel) (by decide +kernel) hcompiled hvisible
    (by decide +kernel) (by decide +kernel)
  have hlength : ∀ seen ∈ s.seen.visibleEditors, seen.id = openedHeader.id →
      seen.lineCount = 10 := by decide +kernel
  rw [hlength seen hseen hid] at hiff
  have hheader : exampleUnit.definitionAt? 1 = some ⟨exampleHeader, 0, none⟩ := rfl
  refine ⟨hvisible, by decide +kernel, fun hmem => ?_, (hiff 9).2 ⟨by decide, ?_, ?_⟩⟩
  · exact ((hiff 0).1 hmem).2.2 1 _ hheader rfl rfl
  · exact ⟨1, _, hheader, rfl⟩
  · intro k target hk hfile
    rw [hlines k target hk hfile]
    decide

/-- The source, after three lines were added. -/
def grownSource : Editor :=
  { sourceEditor with lineCount := 6 }

/-- **Unused lines that are not dimmed.**  The source grows in its place, which is no change of the
visible editors, and the view is not told of it: the new lines stay as they are, though nothing in
the listing came from them. -/
theorem grown_source_keeps_marks :
    let s := (initial exampleDocs {} headerClosed).afterAll
      (compiledRun ++ [.host (showing [grownSource, listingEditor])])
    s.news = false ∧ s.Distinct ∧ s.view.sync.phase = .active ∧
      s.view.compiled? = some exampleUnit ∧ grownSource ∈ s.view.host.visibleEditors ∧
      exampleUnit.references exampleSource = true ∧
      (∃ target, exampleUnit.definitionAt? 0 = some target ∧ target.file = exampleSource) ∧
      5 < grownSource.lineCount ∧
      (∀ k target, exampleUnit.definitionAt? k = some target → target.file = exampleSource →
        target.line ≠ 5) ∧
      s.screen grownSource.id .unused = [0, 2] := by
  intro s
  have hcompiled : s.view.compiled? = some exampleUnit := by
    rw [Synced.compiled?_eq_some_iff]
    exact Synced.compiled?_eq_some_iff.1 (compiled?_compiledRun headerClosed)
  refine ⟨by decide +kernel, by decide +kernel, by decide +kernel, hcompiled, by decide +kernel,
    by decide +kernel, ⟨_, rfl, rfl⟩, by decide, fun k target hk hfile => ?_, by decide +kernel⟩
  obtain _ | _ | k := k
  · obtain rfl := Option.some.inj hk
    decide
  · obtain rfl := Option.some.inj hk
    cases hfile
  · cases hk

end Scene

end AsmExplorer
