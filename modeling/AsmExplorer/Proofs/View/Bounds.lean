import AsmExplorer.Proofs.Listing.Correspondence
import AsmExplorer.Proofs.View.Calls
import AsmExplorer.Proofs.View.Navigation

/-!
# Lines that the editors have

As long as cursors and selections are in their documents, a view puts decorations on lines that the
editors have, and scrolls to such lines only (`Synced.calls_in_range`).  There is one exception.  A
view that puts all its decorations in place shows the last selection again (`Synced.replayed?`), and
does not look whether the line is still there: the document may have become shorter, or another
editor may show less of it (`Scene.remembered_line_gone`).
-/

namespace AsmExplorer

/-- The editor with a name has a line. -/
def Host.HasLine (h : Host) (id : String) (line : Nat) : Prop :=
  ∃ e, h.editor? id = some e ∧ line < e.lineCount

/-- An editor that the host gives is the one that the host has under its name. -/
def Opener.Faithful (opener : Opener) : Prop :=
  ∀ document column h e, (opener document column h).2 = some e →
    (opener document column h).1.editor? e.id = some e

theorem Host.faithful_openSource : Opener.Faithful Host.openSource := by
  intro document column h e he
  obtain ⟨heditors, -, hfound⟩ | ⟨e', he', -, hopens⟩ :=
    h.showDocument_spec document (some column) true
  · have hhas := (mem_visibleEditors_iff.1 (hfound e he).1).2
    rw [openSource, editor?, heditors]
    exact hhas
  · obtain rfl := Option.some.inj (he'.symm.trans he)
    exact hopens.editor?_self

/-! ### What is put fits, but for a selection that is shown again -/

/-- The editor has the lines that are put on it. -/
def Put.Fits (p : Put) : Prop :=
  ∀ line ∈ p.lines, line < p.editor.lineCount

theorem Put.fits_of_lines_eq_nil {p : Put} (h : p.lines = []) : p.Fits := by
  simp [Fits, h]

theorem Put.fits_singleton_iff {e : Editor} {kind : DecorationKind} {line : Nat} :
    (⟨e, kind, [line]⟩ : Put).Fits ↔ line < e.lineCount := by
  simp [Fits]

theorem Synced.lt_of_mem_highlightedLines {unit : CompiledUnit} {v : VisibleSet}
    {limit line k : Nat} {e : Editor} (h : k ∈ highlightedLines unit v limit e line) :
    k < limit := by
  have hmapped : ∀ {document line}, k ∈ mappedLines unit limit document line → k < limit :=
    fun hk => by simpa using (List.mem_filter.1 hk).2
  rw [highlightedLines, List.mem_eraseDups, List.mem_append, List.mem_flatMap] at h
  obtain h | ⟨other, -, h⟩ := h
  · exact hmapped h
  · exact hmapped h

namespace VisibleSet

variable {v : VisibleSet} {unit : CompiledUnit} {e : Editor} {p : Put} {line : Nat}
  {last : Option Selection} {r : Editor × Nat}

/-- Where the last selection is shown again, if its editor is visible. -/
def remembered? (v : VisibleSet) : Option Selection → Option (Editor × Nat)
  | some (.source document line) => (v.sourceFor? document).map (·, line)
  | some (.assembly line) => v.assembly.map (·, line)
  | none => none

theorem fits_or_eq_of_mem_sourcePuts (h : p ∈ v.sourcePuts unit e line) :
    p.editor ∈ v.editors ∧ p.Fits ∨ p = ⟨e, .selected, [line]⟩ := by
  unfold sourcePuts at h
  cases ha : v.assembly with
  | none => simp [ha] at h
  | some assembly =>
    simp only [ha, List.mem_cons, List.not_mem_nil, or_false] at h
    obtain rfl | rfl := h
    · exact .inr rfl
    · exact .inl ⟨mem_editors_of_assembly ha, fun _ => Synced.lt_of_mem_highlightedLines⟩

theorem fits_or_eq_of_mem_assemblyPuts (h : p ∈ v.assemblyPuts unit e line) :
    p.Fits ∨ p = ⟨e, .selected, [line]⟩ := by
  obtain ⟨hkind, ⟨rfl, hlines⟩ | ⟨-, hnil, -⟩⟩ := of_mem_assemblyPuts h
  · exact .inr (by rw [← hkind, ← hlines])
  · exact .inl (Put.fits_of_lines_eq_nil hnil)

theorem fits_of_mem_targetPuts {target : SourceLine} (h : p ∈ targetPuts e target) : p.Fits := by
  obtain ⟨hline, rfl⟩ := mem_targetPuts_iff.1 h
  exact Put.fits_singleton_iff.2 hline

theorem fits_of_mem_cursorPuts (hcursors : ∀ e ∈ v.editors, e.cursor < e.lineCount)
    (h : p ∈ v.cursorPuts unit) : p.Fits := by
  unfold cursorPuts at h
  cases hhead : v.sources.head? with
  | none => simp [hhead] at h
  | some first =>
    rw [hhead] at h
    obtain ⟨-, hfits⟩ | rfl := fits_or_eq_of_mem_sourcePuts h
    · exact hfits
    · exact Put.fits_singleton_iff.2
        (hcursors first (mem_editors_of_mem_sources (List.mem_of_head? hhead)))

/-- Of what a replay puts, only the remembered line may be one that the editor does not have. -/
theorem fits_or_eq_of_mem_replayPuts (hcursors : ∀ e ∈ v.editors, e.cursor < e.lineCount)
    (h : p ∈ v.replayPuts unit last) :
    p.Fits ∨ ∃ r, v.remembered? last = some r ∧ p = ⟨r.1, .selected, [r.2]⟩ := by
  unfold replayPuts at h
  cases last with
  | none => exact .inl (fits_of_mem_cursorPuts hcursors h)
  | some selection =>
    cases selection with
    | source document line =>
      dsimp only at h
      cases hfor : v.sourceFor? document with
      | none => exact .inl (fits_of_mem_cursorPuts hcursors (by simpa [hfor] using h))
      | some e =>
        rw [hfor] at h
        exact (fits_or_eq_of_mem_sourcePuts h).imp And.right fun heq =>
          ⟨(e, line), by simp [remembered?, hfor], heq⟩
    | assembly line =>
      dsimp only at h
      cases ha : v.assembly with
      | none => exact .inl (fits_of_mem_cursorPuts hcursors (by simpa [ha] using h))
      | some assembly =>
        simp only [ha] at h
        obtain h | h := List.mem_append.1 h
        · exact (fits_or_eq_of_mem_assemblyPuts h).imp_right fun heq =>
            ⟨(assembly, line), by simp [remembered?, ha], heq⟩
        · -- the source line is put only if its editor has it
          refine .inl ?_
          split at h
          · cases h
          · split at h
            · exact fits_of_mem_targetPuts h
            · cases h

theorem fits_or_eq_of_mem_decorations {settings : SyncSettings} {state : Option UnitState}
    (hcursors : ∀ e ∈ v.editors, e.cursor < e.lineCount)
    (h : p ∈ v.decorations settings last state) :
    p.Fits ∨ ∃ unit r, state = some (.compiled unit) ∧ unit.lines ≠ [] ∧
      v.remembered? last = some r ∧ p = ⟨r.1, .selected, [r.2]⟩ := by
  cases state with
  | none =>
    obtain ⟨e, he, rfl⟩ := List.mem_map.1 h
    refine .inl (Put.fits_singleton_iff.2 ?_)
    exact Nat.zero_lt_of_lt (hcursors e (mem_editors_of_assembly (Option.mem_toList.1 he)))
  | some state =>
    cases state with
    | failed _ => cases h
    | compiled unit =>
      obtain h | h := List.mem_append.1 h
      · unfold dimPuts at h
        split at h
        · obtain ⟨e, -, rfl⟩ := List.mem_map.1 h
          exact .inl fun _ => LineIndex.lt_of_mem_unusedLines
        · cases h
      · split at h
        · cases h
        · rename_i hlines
          obtain hfits | ⟨r, hr, heq⟩ := fits_or_eq_of_mem_replayPuts hcursors h
          · exact .inl hfits
          · exact .inr ⟨unit, r, rfl, by simpa using hlines, hr, heq⟩

theorem exists_replayPuts_eq_cons (ha : v.assembly.isSome) (hr : v.remembered? last = some r) :
    ∃ more, v.replayPuts unit last = ⟨r.1, .selected, [r.2]⟩ :: more := by
  obtain ⟨a, ha⟩ := Option.isSome_iff_exists.1 ha
  unfold remembered? at hr
  split at hr
  · obtain ⟨e, hfor, rfl⟩ := Option.map_eq_some_iff.1 hr
    simp [replayPuts, hfor, sourcePuts, ha]
  · rw [ha] at hr
    obtain rfl := Option.some.inj hr
    simp [replayPuts, ha, assemblyPuts]
  · cases hr

theorem mem_editors_of_remembered? (hr : v.remembered? last = some r) : r.1 ∈ v.editors := by
  unfold remembered? at hr
  split at hr
  · obtain ⟨e, hfor, rfl⟩ := Option.map_eq_some_iff.1 hr
    exact mem_editors_of_mem_sources (mem_sources_of_sourceFor? hfor).1
  · obtain ⟨e, ha, rfl⟩ := Option.map_eq_some_iff.1 hr
    exact mem_editors_of_assembly ha
  · cases hr

end VisibleSet

namespace Synced

variable {s t m : Synced} {command : ViewCommand} {call : HostCall} {puts : List Put} {p : Put}
  {host : Host} {replay : Option (Editor × Nat)} {r : Editor × Nat} {unit : CompiledUnit}

/-- Where a view that puts all its decorations in place shows the last selection again. -/
def replay? (s : Synced) : Option (Editor × Nat) :=
  match s.compiled? with
  | some unit =>
    if s.visible.isActive ∧ unit.lines ≠ [] then s.visible.remembered? s.sync.last else none
  | none => none

/-- Where the last selection is shown again in the reaction to a command. -/
def replayed? (s : Synced) : ViewCommand → Option (Editor × Nat)
  | .refresh => s.replay?
  | .unit state => { s with sync.unit := some state : Synced }.replay?
  | .visibleEditorsChanged => if s.sync.phase = .inactive then s.replay? else none
  | .selection _ | .close => none

theorem replay?_eq_some_iff : s.replay? = some r ↔ s.visible.isActive = true ∧
    s.visible.remembered? s.sync.last = some r ∧
      ∃ unit, s.sync.unit = some (.compiled unit) ∧ unit.lines ≠ [] := by
  unfold replay?
  cases hcompiled : s.compiled? with
  | none =>
    have hnone : ∀ unit, s.sync.unit ≠ some (.compiled unit) := fun unit hunit => by
      rw [compiled?_eq_some_iff.2 hunit] at hcompiled
      cases hcompiled
    simp [hnone]
  | some unit => simp [compiled?_eq_some_iff.1 hcompiled, and_assoc, and_left_comm, and_comm]

theorem replay?_eq_of_rest (h : t.rest = s.rest) : t.replay? = s.replay? := by
  have hunit : t.sync.unit = s.sync.unit := congrArg (·.sync.unit) h
  have hlast : t.sync.last = s.sync.last := congrArg (·.sync.last) h
  rw [replay?, replay?, compiled?, compiled?, hunit, visible_eq_of_rest h, hlast]

/-- The editor that is named in a request has all the lines that are. -/
def InRange (s : Synced) : HostCall → Prop
  | .set id _ lines => ∀ line ∈ lines, s.host.HasLine id line
  | .reveal id line _ => s.host.HasLine id line
  | .show _ _ _ | .error _ => True

theorem inRange_congr (h : t.host.editor? = s.host.editor?) : t.InRange call ↔ s.InRange call := by
  cases call <;> simp only [InRange, Host.HasLine, h]

theorem inRange_of_fits (heditor : s.host.editor? p.editor.id = some p.editor) (h : p.Fits) :
    s.InRange (.set p.editor.id p.kind p.lines) :=
  fun line hline => ⟨p.editor, heditor, h line hline⟩

/-- A request is made while the host has the given editors, and the editor has the lines or is that
of a replay. -/
def Confined (host : Host) (replay : Option (Editor × Nat)) (s : Synced) (call : HostCall) : Prop :=
  s.host.editor? = host.editor? ∧
    (s.InRange call ∨ ∃ r, replay = some r ∧ call = .set r.1.id .selected [r.2])

theorem editor?_eq_of_rest (h : t.rest = s.rest) : t.host.editor? = s.host.editor? :=
  congrArg (·.host.editor?) h

theorem dependsOnRest_confined : DependsOnRest (Confined host replay) := by
  intro s t call h
  rw [Confined, Confined, inRange_congr (editor?_eq_of_rest h), editor?_eq_of_rest h]

/-! ### Reactions that only decorate -/

theorem makes_putAll (hhost : s.host.editor? = host.editor?)
    (hputs : ∀ p ∈ puts, host.editor? p.editor.id = some p.editor ∧
      (p.Fits ∨ ∃ r, replay = some r ∧ p = ⟨r.1, .selected, [r.2]⟩)) :
    s.Makes (Confined host replay) (s.putAll puts) := by
  refine Makes.putAll dependsOnRest_confined fun p hp => ⟨hhost, ?_⟩
  obtain ⟨heditor, hfits | ⟨r, hr, rfl⟩⟩ := hputs p hp
  · exact .inl (inRange_of_fits (hhost ▸ heditor) hfits)
  · exact .inr ⟨r, hr, rfl⟩

theorem editor?_of_mem_editors {e : Editor} (h : e ∈ s.visible.editors) :
    s.host.editor? e.id = some e :=
  (Host.mem_visibleEditors_iff.1 (of_mem_editors h).1).2

theorem makes_blanks (hhost : m.host.editor? = s.host.editor?) :
    m.Makes (Confined s.host replay) (m.putAll s.visible.blanks) := by
  refine makes_putAll hhost fun p hp => ?_
  obtain ⟨heditor, hnil⟩ := VisibleSet.mem_blanks_iff.1 hp
  exact ⟨editor?_of_mem_editors heditor, .inl (Put.fits_of_lines_eq_nil hnil)⟩

/-- What a view that becomes active puts fits, but for the selection that it shows again. -/
theorem fits_or_eq_of_mem_decorations
    (hcursors : ∀ e ∈ s.host.visibleEditors, e.cursor < e.lineCount)
    (hactive : s.visible.isActive = true)
    (hp : p ∈ s.visible.decorations s.sync.settings s.sync.last s.sync.unit) :
    p.Fits ∨ ∃ r, s.replay? = some r ∧ p = ⟨r.1, .selected, [r.2]⟩ := by
  have hvisible : ∀ e ∈ s.visible.editors, e.cursor < e.lineCount := fun e he =>
    hcursors e (of_mem_editors he).1
  refine (VisibleSet.fits_or_eq_of_mem_decorations hvisible hp).imp_right ?_
  rintro ⟨unit, r, hunit, hlines, hr, rfl⟩
  exact ⟨r, replay?_eq_some_iff.2 ⟨hactive, hr, unit, hunit, hlines⟩, rfl⟩

theorem makes_decorations (hcursors : ∀ e ∈ s.host.visibleEditors, e.cursor < e.lineCount)
    (hactive : s.visible.isActive = true) (hhost : m.host.editor? = s.host.editor?) :
    m.Makes (Confined s.host s.replay?)
      (m.putAll (s.visible.decorations s.sync.settings s.sync.last s.sync.unit)) := by
  refine makes_putAll hhost fun p hp => ⟨?_, fits_or_eq_of_mem_decorations hcursors hactive hp⟩
  exact editor?_of_mem_editors (VisibleSet.mem_editors_of_mem_decorations hp)

theorem makes_renewals (hcursors : ∀ e ∈ s.host.visibleEditors, e.cursor < e.lineCount)
    (hactive : s.visible.isActive = true) (hhost : m.host.editor? = s.host.editor?) :
    m.Makes (Confined s.host replay)
      (m.putAll (s.visible.renewals s.sync.settings s.sync.unit)) := by
  refine makes_putAll hhost fun p hp => ?_
  have hmem : p ∈ s.visible.decorations s.sync.settings s.sync.last s.sync.unit :=
    VisibleSet.mem_decorations_of_mem_renewals hp
  refine ⟨editor?_of_mem_editors (VisibleSet.mem_editors_of_mem_decorations hmem), .inl ?_⟩
  obtain hfits | ⟨r, -, rfl⟩ := fits_or_eq_of_mem_decorations hcursors hactive hmem
  · exact hfits
  · exact absurd rfl (VisibleSet.kind_of_mem_renewals hp)

theorem makes_refresh (hcursors : ∀ e ∈ s.host.visibleEditors, e.cursor < e.lineCount) :
    s.Makes (Confined s.host s.replay?) s.refresh := by
  have hphase : s.Makes (Confined s.host s.replay?) (s.updatePhase s.visible) :=
    .of_silent rfl rfl
  have hcleared : s.Makes (Confined s.host s.replay?)
      ((s.updatePhase s.visible).putAll s.visible.blanks) := hphase.trans (makes_blanks rfl)
  rw [refresh_eq]
  refine hcleared.trans ?_
  split
  · have hrest := rest_putAll (s := s.updatePhase s.visible) s.visible.blanks
    exact makes_decorations hcursors ‹_› (editor?_eq_of_rest (s := s.updatePhase s.visible) hrest)
  · exact .refl

theorem makes_onUnitChanged (hcursors : ∀ e ∈ s.host.visibleEditors, e.cursor < e.lineCount)
    (state : UnitState) :
    s.Makes (Confined s.host (s.replayed? (.unit state))) (s.onUnitChanged state) := by
  have hrest := rest_putAll (s := s) s.visible.blanks
  have hreplay : { s.putAll s.visible.blanks with sync.unit := some state : Synced }.replay? =
      s.replayed? (.unit state) := by
    refine replay?_eq_of_rest ?_
    exact congrArg (fun r : Synced => { r with sync.unit := some state : Synced }) hrest
  have hrefresh : { s.putAll s.visible.blanks with sync.unit := some state : Synced }.Makes
      (Confined (s.putAll s.visible.blanks).host (s.replayed? (.unit state)))
      { s.putAll s.visible.blanks with sync.unit := some state : Synced }.refresh := by
    rw [← hreplay]
    refine makes_refresh ?_
    change ∀ e ∈ (s.putAll s.visible.blanks).host.visibleEditors, e.cursor < e.lineCount
    rwa [visibleEditors_putAll]
  have hconfined : Confined (s.putAll s.visible.blanks).host (s.replayed? (.unit state)) =
      Confined s.host (s.replayed? (.unit state)) := by
    funext m call
    rw [Confined, Confined, editor?_eq_of_rest hrest]
  have hunit : (s.putAll s.visible.blanks).Makes
      (Confined s.host (s.replayed? (.unit state)))
      { s.putAll s.visible.blanks with sync.unit := some state } := .of_silent rfl rfl
  rw [onUnitChanged_eq]
  rw [hconfined] at hrefresh
  exact (makes_blanks rfl).trans (hunit.trans hrefresh)

theorem makes_onVisibleEditorsChanged
    (hcursors : ∀ e ∈ s.host.visibleEditors, e.cursor < e.lineCount) :
    s.Makes (Confined s.host (s.replayed? .visibleEditorsChanged)) s.onVisibleEditorsChanged := by
  have hphase : s.Makes (Confined s.host (s.replayed? .visibleEditorsChanged))
      ({ s with sync.ledger := {} : Synced }.updatePhase s.visible) := .of_silent rfl rfl
  rw [onVisibleEditorsChanged_eq]
  refine hphase.trans ?_
  unfold updates
  split
  · cases hphase : s.sync.phase with
    | inactive =>
      rw [replayed?, if_pos hphase]
      exact makes_decorations (s := s) hcursors ‹_› rfl
    | active => exact makes_renewals (s := s) hcursors ‹_› rfl
  · exact makes_blanks rfl

theorem makes_dispose : s.Makes (Confined s.host none) s.dispose := by
  have hphase : (s.putAll s.visible.blanks).Makes (Confined s.host none)
      { s.putAll s.visible.blanks with sync.phase := .inactive } := .of_silent rfl rfl
  rw [dispose_eq]
  exact (makes_blanks rfl).trans hphase

/-! ### Selections -/

theorem dependsOnRest_inRange : DependsOnRest InRange :=
  fun _ _ _ h => inRange_congr (editor?_eq_of_rest h)

/-- A line of an editor that the host has is put on it and scrolled to if the editor has it. -/
theorem makes_highlightTarget {e : Editor} {target : SourceLine}
    (heditor : s.host.editor? e.id = some e) :
    s.Makes InRange (s.highlightTarget e target true) := by
  rw [highlightTarget_eq]
  refine (Makes.putAll dependsOnRest_inRange fun p hp => ?_).trans
    (Makes.revealAll dependsOnRest_inRange fun r hr => ?_)
  · obtain ⟨hline, rfl⟩ := VisibleSet.mem_targetPuts_iff.1 hp
    exact inRange_of_fits heditor (Put.fits_singleton_iff.2 hline)
  · rw [dependsOnRest_inRange (rest_putAll _)]
    split at hr
    · rename_i hline
      obtain rfl := List.mem_singleton.1 hr
      exact ⟨e, heditor, hline.2⟩
    · cases hr

theorem inRange_singleton {id : String} {kind : DecorationKind} {line : Nat}
    (hline : s.host.HasLine id line) : s.InRange (.set id kind [line]) := by
  simpa [InRange] using hline

theorem of_mem_sourceReveals {v : VisibleSet} {e : Editor} {line : Nat}
    (h : r ∈ sourceReveals unit v e line) : v.assembly = some r.1 ∧ r.2 < r.1.lineCount := by
  unfold sourceReveals at h
  cases ha : v.assembly with
  | none => simp [ha] at h
  | some a =>
    simp only [ha, List.mem_map, Option.mem_toList] at h
    obtain ⟨first, hfirst, rfl⟩ := h
    exact ⟨rfl, lt_of_mem_highlightedLines (List.mem_of_head? hfirst)⟩

theorem makes_selectSource {e : Editor} {line : Nat} (hline : s.host.HasLine e.id line) :
    s.Makes InRange (s.selectSource unit s.visible e line true) := by
  rw [selectSource_eq, if_pos rfl]
  refine (Makes.putAll dependsOnRest_inRange fun p hp => ?_).trans
    (Makes.revealAll dependsOnRest_inRange fun r hr => ?_)
  · obtain ⟨hmem, hfits⟩ | rfl := VisibleSet.fits_or_eq_of_mem_sourcePuts hp
    · exact inRange_of_fits (editor?_of_mem_editors hmem) hfits
    · exact inRange_singleton hline
  · obtain ⟨ha, hlt⟩ := of_mem_sourceReveals hr
    rw [dependsOnRest_inRange (rest_putAll _)]
    exact ⟨r.1, editor?_of_mem_editors (VisibleSet.mem_editors_of_assembly ha), hlt⟩

theorem makes_remember (last : Option Selection) : s.Makes InRange { s with sync.last := last } :=
  .of_silent rfl rfl

theorem makes_lineSelected {change : SelectionChange}
    (hline : s.host.HasLine change.editor.id change.line) :
    s.Makes InRange (s.lineSelected unit change) := by
  refine (makes_remember _).trans (Makes.putAll dependsOnRest_inRange fun p hp => ?_)
  obtain ⟨-, ⟨heditor, hlines⟩ | ⟨-, hnil, -⟩⟩ := VisibleSet.of_mem_assemblyPuts hp
  · rw [heditor, hlines]
    exact inRange_singleton hline
  · simp [InRange, hnil]

theorem makes_onSelectionChangedBy {opener : Opener} (hopener : opener.Faithful)
    {change : SelectionChange} (hline : s.host.HasLine change.editor.id change.line) :
    s.Makes InRange (s.onSelectionChangedBy opener change) := by
  have hselects := selects (s := s) opener change
  generalize s.onSelectionChangedBy opener change = t at hselects
  have hasked : ∀ {unit document}, s.Makes InRange
      ((s.lineSelected unit change).asked opener s.visible document).1 := fun {_ _} =>
    (makes_lineSelected hline).trans (.of_record rfl rfl trivial)
  cases hselects with
  | ignored _ => exact .refl
  | source _ _ =>
    let remembered : Synced :=
      { s with sync.last := some (.source change.editor.document change.line) }
    exact (makes_remember _).trans (makes_selectSource (s := remembered) hline)
  | unmapped _ _ _ => exact makes_lineSelected hline
  | mapped _ _ _ he =>
    have hmem := VisibleSet.mem_editors_of_mem_sources (VisibleSet.mem_sources_of_sourceFor? he).1
    refine (makes_lineSelected hline).trans (makes_highlightTarget ?_)
    exact editor?_of_mem_editors (visible_lineSelected.symm ▸ hmem)
  | refused _ _ _ _ _ => exact hasked
  | opened _ _ _ _ hanswer =>
    exact hasked.trans (makes_highlightTarget (hopener _ _ _ _ hanswer))

/-! ### The remembered line is put -/

/-- A request is among those made on the way from one state to another. -/
def Asks (s t : Synced) (call : HostCall) : Prop :=
  ∃ calls, t.host.calls = calls ++ s.host.calls ∧ call ∈ calls

theorem suffix_calls_apply (e : Editor) (kind : DecorationKind) (lines : List Nat) (s : Synced) :
    s.host.calls <:+ (s.apply e kind lines).host.calls := by
  unfold apply
  split
  · exact List.suffix_rfl
  · exact List.suffix_cons _ _

theorem suffix_calls_putAll (puts : List Put) (s : Synced) :
    s.host.calls <:+ (s.putAll puts).host.calls := by
  induction puts generalizing s with
  | nil => exact List.suffix_rfl
  | cons p puts ih => exact (suffix_calls_apply _ _ _ s).trans (ih _)

theorem Asks.after (h : s.Asks t call) (hmore : t.host.calls <:+ m.host.calls) :
    s.Asks m call := by
  obtain ⟨calls, hcalls, hmem⟩ := h
  obtain ⟨more, hmore⟩ := hmore
  exact ⟨more ++ calls, by rw [← hmore, hcalls, List.append_assoc], List.mem_append_right _ hmem⟩

theorem Asks.before (h : t.Asks m call) (hbefore : s.host.calls <:+ t.host.calls) :
    s.Asks m call := by
  obtain ⟨calls, hcalls, hmem⟩ := h
  obtain ⟨before, hbefore⟩ := hbefore
  exact ⟨calls ++ before, by rw [hcalls, ← hbefore, List.append_assoc],
    List.mem_append_left _ hmem⟩

theorem asks_apply {e : Editor} {kind : DecorationKind} {lines : List Nat}
    (h : s.sync.ledger.get? (Ledger.slot e kind) ≠ some lines) :
    s.Asks (s.apply e kind lines) (.set e.id kind lines) := by
  rw [apply, if_neg h]
  exact ⟨[_], rfl, List.mem_singleton_self _⟩

/-- A view that puts all its decorations in place asks for the remembered line, unless the ledger
has it. -/
theorem asks_decorations (hr : s.replay? = some r)
    (hledger : m.sync.ledger.get? (Ledger.slot r.1 .selected) ≠ some [r.2]) :
    m.Asks (m.putAll (s.visible.decorations s.sync.settings s.sync.last s.sync.unit))
      (.set r.1.id .selected [r.2]) := by
  obtain ⟨hactive, hremembered, unit, hunit, hlines⟩ := replay?_eq_some_iff.1 hr
  have hassembly : s.visible.assembly.isSome := (Bool.and_eq_true_iff.1 hactive).1
  obtain ⟨more, hmore⟩ :
      ∃ more, s.visible.replayPuts unit s.sync.last = ⟨r.1, .selected, [r.2]⟩ :: more :=
    VisibleSet.exists_replayPuts_eq_cons hassembly hremembered
  -- dimming comes first, and leaves the slot alone
  have hdims : (m.putAll (s.visible.dimPuts s.sync.settings unit)).sync.ledger.get?
      (Ledger.slot r.1 .selected) = m.sync.ledger.get? (Ledger.slot r.1 .selected) := by
    refine get?_putAll_of_forall_ne fun p hp heq => ?_
    have hrenewal : p ∈ s.visible.renewals s.sync.settings (some (.compiled unit)) := hp
    have hkind := VisibleSet.kind_of_mem_renewals hrenewal
    exact hkind (Prod.mk.inj (Prod.mk.inj heq).2).2.symm
  rw [hunit, VisibleSet.decorations, if_neg (by simpa using hlines), hmore, putAll_append,
    putAll_cons]
  exact ((asks_apply (hdims ▸ hledger)).before (suffix_calls_putAll _ _)).after
    (suffix_calls_putAll _ _)

theorem asks_refresh (hr : s.replay? = some r) :
    s.Asks s.refresh (.set r.1.id .selected [r.2]) := by
  obtain ⟨hactive, hremembered, -⟩ := replay?_eq_some_iff.1 hr
  have heditor := VisibleSet.mem_editors_of_remembered? hremembered
  have hcleared : ((s.updatePhase s.visible).putAll s.visible.blanks).sync.ledger.get?
      (Ledger.slot r.1 .selected) = some [] := by
    refine get?_putAll_of_forall_eq (fun p hp _ => (VisibleSet.mem_blanks_iff.1 hp).2) (.inr ?_)
    exact ⟨⟨r.1, .selected, []⟩, VisibleSet.mem_blanks_iff.2 ⟨heditor, rfl⟩, rfl⟩
  rw [refresh_eq, if_pos hactive]
  exact (asks_decorations hr (by simp [hcleared])).before
    (suffix_calls_putAll _ (s.updatePhase s.visible))

/-- **A remembered line is put**, whatever the ledger has. -/
theorem asks_replayed (hr : s.replayed? command = some r) :
    s.Asks (s.handle command) (.set r.1.id .selected [r.2]) := by
  cases command with
  | refresh => exact asks_refresh hr
  | unit state =>
    have hrest : { s.putAll s.visible.blanks with sync.unit := some state : Synced }.rest =
        { s with sync.unit := some state : Synced }.rest :=
      congrArg (fun r : Synced => { r with sync.unit := some state : Synced }) (rest_putAll _)
    have hrefresh := asks_refresh ((replay?_eq_of_rest hrest).trans hr)
    rw [handle, onUnitChanged_eq]
    exact hrefresh.before (suffix_calls_putAll s.visible.blanks s)
  | visibleEditorsChanged =>
    simp only [replayed?] at hr
    split at hr
    · rename_i hinactive
      obtain ⟨hactive, -⟩ := replay?_eq_some_iff.1 hr
      rw [handle, onVisibleEditorsChanged_eq, updates, if_pos hactive, hinactive]
      have hempty : ({} : Ledger).get? (Ledger.slot r.1 .selected) = none := rfl
      exact asks_decorations (m := { s with sync.ledger := {} : Synced }.updatePhase s.visible) hr
        (by simp [updatePhase, hempty])
    · cases hr
  | selection _ | close => cases hr

theorem editor?_of_replayed? (hr : s.replayed? command = some r) :
    s.host.editor? r.1.id = some r.1 := by
  have hreplay : ∀ {t : Synced}, t.replay? = some r → t.host.editor? r.1.id = some r.1 := by
    intro t hr
    obtain ⟨-, hremembered, -⟩ := replay?_eq_some_iff.1 hr
    exact editor?_of_mem_editors (VisibleSet.mem_editors_of_remembered? hremembered)
  cases command with
  | refresh => exact hreplay hr
  | unit state => exact hreplay (t := { s with sync.unit := some state }) hr
  | visibleEditorsChanged =>
    simp only [replayed?] at hr
    split at hr
    · exact hreplay hr
    · cases hr
  | selection _ | close => cases hr

/-! ### All requests -/

theorem makes_handle (hcursors : ∀ e ∈ s.host.visibleEditors, e.cursor < e.lineCount)
    (hcommand : ∀ change, command ≠ .selection change) :
    s.Makes (Confined s.host (s.replayed? command)) (s.handle command) := by
  cases command with
  | refresh => exact makes_refresh hcursors
  | unit state => exact makes_onUnitChanged hcursors state
  | selection change => exact absurd rfl (hcommand change)
  | visibleEditorsChanged => exact makes_onVisibleEditorsChanged hcursors
  | close => exact makes_dispose

/-- **Requests are for lines that the editors have, but for a selection that is shown again.**
Take any state of a view in which the cursors of the visible editors are in their documents, any
command, with the line of a selection in the document of its editor, and whatever the host does when
it is asked for a document.  The view records its requests, and the host is asked for nothing else;
each is for lines that the editor has at that moment, unless it puts the remembered line of a
replay.  All are exactly if that line is in the document, or there is no replay. -/
theorem calls_in_range (s : Synced) (command : ViewCommand) (opener : Opener)
    (hopener : opener.Faithful)
    (hcursors : ∀ e ∈ s.host.visibleEditors, e.cursor < e.lineCount)
    (hline : ∀ change, command = .selection change →
      s.host.HasLine change.editor.id change.line) :
    let t := s.handleBy opener command
    ∃ made, t.made = made ++ s.made ∧ t.host.calls = made.map ViewRequest.call ++ s.host.calls ∧
      (∀ r ∈ made, r.state.InRange r.call ∨
        ∃ p, s.replayed? command = some p ∧ r.call = .set p.1.id .selected [p.2]) ∧
      ((∀ r ∈ made, r.state.InRange r.call) ↔
        ∀ p, s.replayed? command = some p → p.2 < p.1.lineCount) := by
  intro t
  by_cases hselection : ∃ change, command = .selection change
  · obtain ⟨change, rfl⟩ := hselection
    obtain ⟨made, hmade, hrange⟩ : s.Makes InRange t :=
      makes_onSelectionChangedBy hopener (hline change rfl)
    exact ⟨made, hmade.made_eq, hmade.calls_eq, fun r hr => .inl (hrange r hr),
      ⟨fun _ _ hp => (nomatch hp), fun _ => hrange⟩⟩
  · have ht : t = s.handle command := by
      cases command with
      | selection change => exact absurd ⟨change, rfl⟩ hselection
      | refresh | unit _ | visibleEditorsChanged | close => rfl
    obtain ⟨made, hmade, hconfined⟩ : s.Makes (Confined s.host (s.replayed? command)) t :=
      ht ▸ makes_handle hcursors fun change hchange => hselection ⟨change, hchange⟩
    refine ⟨made, hmade.made_eq, hmade.calls_eq, fun r hr => (hconfined r hr).2, ?_, ?_⟩
    · intro hrange p hp
      obtain ⟨calls, hcalls, hmem⟩ := asks_replayed hp
      rw [← ht, hmade.calls_eq, List.append_cancel_right_eq] at hcalls
      rw [← hcalls, List.mem_map] at hmem
      obtain ⟨r, hr, hcall⟩ := hmem
      have hhas := hrange r hr
      rw [hcall] at hhas
      obtain ⟨e, he, hlt⟩ := hhas p.2 (List.mem_singleton_self _)
      rw [(hconfined r hr).1, editor?_of_replayed? hp] at he
      obtain rfl := Option.some.inj he
      exact hlt
    · intro hfits r hr
      obtain ⟨hhost, hrange | ⟨p, hp, hcall⟩⟩ := hconfined r hr
      · exact hrange
      · rw [hcall]
        refine inRange_singleton ⟨p.1, ?_, hfits p hp⟩
        rw [hhost]
        exact editor?_of_replayed? hp

end Synced

namespace Scene

/-- The cursors of the visible editors are in their documents. -/
def CursorsInside (s : Scene) : Prop :=
  ∀ e ∈ s.view.host.visibleEditors, e.cursor < e.lineCount

instance : DecidablePred CursorsInside :=
  fun s => inferInstanceAs (Decidable (∀ e ∈ s.view.host.visibleEditors, e.cursor < e.lineCount))

/-- The last line of the source is selected, and shown again when the same unit comes once more: all
requests are in range. -/
theorem remembered_line_there :
    let s := ((initial exampleDocs {} headerClosed).afterAll
      (compiledRun ++ [select sourceEditor 2])).view
    let command := ViewCommand.unit (.compiled exampleUnit)
    s.replayed? command = some (sourceEditor, 2) ∧
      ∃ made, (s.handle command).made = made ++ s.made ∧
        ∀ r ∈ made, r.state.InRange r.call := by
  intro s command
  have hreplayed : s.replayed? command = some (sourceEditor, 2) := by decide +kernel
  obtain ⟨made, hmade, -, -, hiff⟩ := Synced.calls_in_range s command Host.openSource
    Host.faithful_openSource (by decide +kernel) (fun _ hchange => nomatch hchange)
  refine ⟨hreplayed, made, hmade, hiff.2 fun p hp => ?_⟩
  obtain rfl := Option.some.inj (hreplayed.symm.trans hp)
  decide

/-- The source after all its lines but the first were deleted. -/
def shortSource : Editor :=
  { sourceEditor with lineCount := 1 }

/-- **A remembered line that is gone.**  The last line of the source is selected, and then all its
lines but the first are deleted.  When a unit comes, the view puts a decoration on the third line,
although cursors and selections were in their documents all the time. -/
theorem remembered_line_gone :
    let start := initial exampleDocs {} headerClosed
    let events := compiledRun ++
      [select sourceEditor 2, .host (showing [shortSource, listingEditor])]
    let s := (start.afterAll events).view
    start.Throughout CursorsInside events ∧
      (start.afterAll compiledRun).view.host.editor? "source" = some sourceEditor ∧
      2 < sourceEditor.lineCount ∧
      s.host.editor? "source" = some shortSource ∧
      s.host.calls = [] ∧
      .set "source" .selected [2] ∈ (s.handle (.unit (.compiled exampleUnit))).host.calls ∧
      ¬ 2 < shortSource.lineCount := by
  decide +kernel

end Scene

end AsmExplorer
