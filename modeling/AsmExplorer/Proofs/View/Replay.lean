import AsmExplorer.Proofs.View.Marks

/-!
# What a selection leaves, and what is shown again

A view that becomes active shows the last selection again.  On at most one editor of the sources
does this put a selected line, its *carrier* (`VisibleSet.carrier?`): the first editor of the source
in which the selection was made, or that the selected line of the listing came from.

A selection itself puts its lines on the same editors, unless it was made in a second editor of a
source (`Synced.Told.selected`).  But it leaves the lines on the other editors of the sources, which
earlier selections have put there.  So the screen is that of a fresh view exactly if there are no
such lines (`Synced.Sound.freshScreen_eq_iff`).
-/

namespace AsmExplorer

namespace VisibleSet

variable {v : VisibleSet} {unit : CompiledUnit} {last : Option Selection} {a e : Editor}
  {carrier : Option Editor} {puts : List Put} {p : Put}

/-- The editor of a source on which the last selection is shown again. -/
def carrier? (v : VisibleSet) (unit : CompiledUnit) : Option Selection → Option Editor
  | some (.source document _) => (v.sourceFor? document).or v.sources.head?
  | some (.assembly line) =>
    (unit.definitionAt? line).bind fun target =>
      (v.sourceFor? target.file).filter fun e => target.line < e.lineCount
  | none => v.sources.head?

/-- What shows the last selection again: a line of the carrier with the lines of the listing, or a
line of the listing, with or without the line of the carrier that it came from. -/
inductive Replays (v : VisibleSet) (unit : CompiledUnit) (a : Editor) :
    Option Editor → List Put → Prop
  /-- A line of a source. -/
  | source {c : Editor} {line : Nat} (hc : c ∈ v.sources) :
      Replays v unit a (some c) (v.sourcePuts unit c line)
  /-- A line of the listing. -/
  | line {line : Nat} : Replays v unit a none (v.assemblyPuts unit a line)
  /-- A line of the listing with the line that it came from. -/
  | target {c : Editor} {line origin : Nat} (hc : c ∈ v.sources) :
      Replays v unit a (some c) (v.assemblyPuts unit a line ++ [⟨c, .selected, [origin]⟩])

theorem replays_cursorPuts (hsources : v.sources ≠ []) :
    v.Replays unit a v.sources.head? (v.cursorPuts unit) := by
  obtain ⟨first, rest, hcons⟩ := List.exists_cons_of_ne_nil hsources
  have hfirst : first ∈ v.sources := hcons ▸ List.mem_cons_self
  rw [cursorPuts, hcons]
  exact .source hfirst

theorem replays (ha : v.assembly = some a) (hsources : v.sources ≠ []) :
    v.Replays unit a (v.carrier? unit last) (v.replayPuts unit last) := by
  unfold replayPuts carrier?
  cases last with
  | none => exact replays_cursorPuts hsources
  | some selection =>
    cases selection with
    | source document line =>
      dsimp only
      cases hfor : v.sourceFor? document with
      | none => exact replays_cursorPuts hsources
      | some e => exact .source (mem_sources_of_sourceFor? hfor).1
    | assembly line =>
      simp only [ha]
      cases unit.definitionAt? line with
      | none =>
        rw [List.append_nil]
        exact .line
      | some target =>
        simp only [Option.bind_some]
        cases hfor : v.sourceFor? target.file with
        | none =>
          rw [List.append_nil]
          exact .line
        | some e =>
          by_cases hline : target.line < e.lineCount
          · simp only [targetPuts, Nat.not_le.2 hline, if_false, Option.filter_some, hline,
              decide_true, if_true]
            exact .target (mem_sources_of_sourceFor? hfor).1
          · simp only [targetPuts, Nat.not_lt.1 hline, if_true, Option.filter_some, hline,
              decide_false, List.append_nil]
            exact .line

theorem Replays.exists_assembly (h : v.Replays unit a carrier puts) (ha : v.assembly = some a) :
    ∃ p ∈ puts, p.kind = .selected ∧ p.editor = a := by
  cases h with
  | source _ => simp [sourcePuts, ha]
  | line => simp [assemblyPuts]
  | target _ => simp [assemblyPuts]

theorem Replays.exists_carrier (h : v.Replays unit a (some e) puts) (ha : v.assembly = some a) :
    ∃ p ∈ puts, p.kind = .selected ∧ p.editor = e := by
  cases h with
  | source _ => simp [sourcePuts, ha]
  | target _ => exact ⟨_, List.mem_append_right _ List.mem_cons_self, rfl, rfl⟩

theorem Replays.carrier_eq (h : v.Replays unit a carrier puts) (ha : v.assembly = some a)
    (hsource : p.editor ∈ v.sources) (hne : p.editor ≠ a) (hp : p ∈ puts) (hlines : p.lines ≠ []) :
    carrier = some p.editor := by
  have hline : ∀ {line}, p ∉ v.assemblyPuts unit a line := by
    intro line hp
    obtain ⟨-, ⟨heditor, -⟩ | ⟨-, hnil, -⟩⟩ := of_mem_assemblyPuts hp
    · exact hne heditor
    · exact hlines hnil
  cases h with
  | source hc =>
    simp only [sourcePuts, ha, List.mem_cons, List.not_mem_nil, or_false] at hp
    obtain rfl | rfl := hp
    · rfl
    · exact absurd rfl hne
  | line => exact absurd hp hline
  | target hc =>
    obtain hp | hp := List.mem_append.1 hp
    · exact absurd hp hline
    · rw [List.mem_singleton] at hp
      rw [hp]

theorem Replays.exists_ne (h : v.Replays unit a carrier puts) (ha : v.assembly = some a)
    (hne : ∀ e ∈ v.sources, e.id ≠ a.id) (screen : Screen) :
    ∃ id, screen.putAll puts id .selected ≠ [] := by
  have hline : ∀ {line screen}, Screen.putAll screen (v.assemblyPuts unit a line) a.id .selected =
      [line] := by
    intro line screen
    refine Screen.putAll_of_forall_eq (fun p hp _ hid => ?_)
      (.inr ⟨_, List.mem_cons_self, rfl, rfl⟩)
    obtain ⟨-, ⟨-, hlines⟩ | ⟨hsource, -⟩⟩ := of_mem_assemblyPuts hp
    · exact hlines
    · exact absurd hid (hne _ hsource)
  cases h with
  | @source c line hc =>
    refine ⟨c.id, ?_⟩
    rw [sourcePuts, ha, Screen.putAll_cons, Screen.putAll_cons, Screen.putAll_nil,
      Screen.set_of_ne fun heq => hne c hc heq.1, Screen.set_self]
    simp
  | line => exact ⟨a.id, by simp [hline]⟩
  | @target c line origin hc =>
    refine ⟨a.id, ?_⟩
    rw [Screen.putAll_append, Screen.putAll_cons, Screen.putAll_nil,
      Screen.set_of_ne fun heq => hne c hc heq.1.symm, hline]
    simp

theorem putAll_assemblyPuts_congr {line : Nat} (hid : e.id = a.id) (screen : Screen) :
    screen.putAll (v.assemblyPuts unit e line) = screen.putAll (v.assemblyPuts unit a line) := by
  simp only [assemblyPuts, Screen.putAll_cons, hid]

theorem putAll_sourcePuts_congr {line : Nat} (hid : e.id = a.id)
    (hdocument : e.document = a.document) (screen : Screen) :
    screen.putAll (v.sourcePuts unit e line) = screen.putAll (v.sourcePuts unit a line) := by
  unfold sourcePuts Synced.highlightedLines
  cases v.assembly with
  | none => rfl
  | some _ => simp only [Screen.putAll_cons, hid, hdocument]

theorem isActive_iff : v.isActive = true ↔ (∃ a, v.assembly = some a) ∧ v.sources ≠ [] := by
  simp [isActive, Option.isSome_iff_exists]

end VisibleSet

namespace Synced

variable {base : Screen} {s : Synced} {change : SelectionChange} {unit : CompiledUnit}
  {document : Uri} {v : VisibleSet} {a e : Editor} {seen : Host}

theorem id_ne_of_mem_sources (ha : s.visible.assembly = some a) (he : e ∈ s.visible.sources) :
    e.id ≠ a.id := by
  intro hid
  obtain ⟨hmem, hassembly⟩ := mem_visibleEditors_of_assembly ha
  obtain ⟨hmem', hdocument, -⟩ := mem_sources_iff.1 he
  rw [Host.eq_of_id_eq hmem' hmem hid] at hdocument
  exact hdocument hassembly

/-- A visible editor of a document that the listing refers to shows a source. -/
theorem Attends.mem_sources (h : s.Attends change unit)
    (hself : unit.references s.sync.docs.assembly = false) (he : e ∈ s.host.visibleEditors)
    (hsource : unit.references e.document = true) : e ∈ s.visible.sources := by
  refine mem_sources_iff.2 ⟨he, fun hassembly => ?_, h.isSource_iff.2 hsource⟩
  rw [hassembly, hself] at hsource
  cases hsource

/-- If asking for a document leaves the visible editors in their places, it was visible or is
refused. -/
theorem visibleEditors_asked (hd : (s.asked Host.openSource v document).1.host.Distinct)
    (hplace : (s.asked Host.openSource v document).1.host.place? = s.host.place?) :
    (s.asked Host.openSource v document).1.host.visibleEditors = s.host.visibleEditors ∧
      ∀ e, (s.asked Host.openSource v document).2 = some e →
        e ∈ s.host.visibleEditors ∧ e.document = document := by
  obtain ⟨heditors, hvisible, hfound⟩ | ⟨e, -, -, hopens⟩ :=
    s.host.showDocument_spec document (some (columnForSources v)) true
  · refine ⟨?_, hfound⟩
    simp only [asked, Host.openSource, Host.visibleEditors, Host.editor?, heditors, hvisible]
    rfl
  · -- an editor that is opened was not visible before
    exfalso
    have hshows : s.host.place? e.id = some (e.document, e.column) := by
      rw [← hplace]
      exact hopens.shows
    obtain ⟨e', he', hid, -⟩ := Host.exists_mem_of_place? hshows
    exact hopens.not_mem_visible hd (hid ▸ (Host.mem_visibleEditors_iff.1 he').1)

/-- The lines of a selection in a source are put on the screen. -/
theorem Told.selected_source (htold : s.Told base seen) (htidy : s.Tidy base) (hd : s.host.Distinct)
    (h : s.Attends change unit) (hshows : s.host.Shows change.editor)
    (hself : unit.references s.sync.docs.assembly = false)
    (hsource : unit.references change.editor.document = true) :
    let t := { s with sync.last := some (.source change.editor.document change.line) : Synced
      }.selectSource unit s.visible change.editor change.line true
    t.screen base = (s.screen base).putAll (s.visible.replayPuts unit
        (some (.source change.editor.document change.line))) ∨
      ∃ e ∈ s.visible.sources, t.screen base e.id .selected ≠ [] ∧
        s.visible.carrier? unit (some (.source change.editor.document change.line)) ≠ some e := by
  intro t
  obtain ⟨⟨a, ha⟩, -⟩ := VisibleSet.isActive_iff.1 (htold.active h.active)
  have hscreen : t.screen base =
      (s.screen base).putAll (s.visible.sourcePuts unit change.editor change.line) := by
    rw [← htold.screen_remember htidy hd _ (h.selectedOn_sourcePuts hshows hsource)]
    exact (congrArg (screen base) (selectSource_eq _ true)).trans screen_revealAll
  -- the visible editor in which the selection was made
  obtain ⟨e, he, hid, hplace⟩ := Host.exists_mem_of_place? hshows
  have hdocument : e.document = change.editor.document := congrArg Prod.fst hplace
  have hmem : e ∈ s.visible.sources := h.mem_sources hself he (hdocument ▸ hsource)
  obtain ⟨c, hc⟩ : ∃ c, s.visible.sourceFor? change.editor.document = some c := by
    refine Option.isSome_iff_exists.1 (List.find?_isSome.2 ⟨e, hmem, ?_⟩)
    simpa using hdocument
  by_cases hcid : change.editor.id = c.id
  · refine .inl ?_
    have hcdocument := (VisibleSet.mem_sources_of_sourceFor? hc).2
    rw [hscreen, VisibleSet.putAll_sourcePuts_congr hcid hcdocument.symm]
    simp only [VisibleSet.replayPuts, hc]
  · refine .inr ⟨e, hmem, ?_, ?_⟩
    · rw [hscreen, VisibleSet.sourcePuts, ha, Screen.putAll_cons, Screen.putAll_cons,
        Screen.putAll_nil, Screen.set_of_ne fun heq => id_ne_of_mem_sources ha hmem heq.1, hid,
        Screen.set_self]
      simp
    · simp only [VisibleSet.carrier?, hc, Option.some_or, ne_eq, Option.some.injEq]
      rintro rfl
      exact hcid hid.symm

theorem OneListing.assembly_of_shows (hone : s.OneListing) (hshows : s.host.Shows change.editor)
    (hassembly : change.editor.document = s.sync.docs.assembly) :
    ∃ a, s.visible.assembly = some a ∧ change.editor.id = a.id := by
  obtain ⟨a, ha, hid, hplace⟩ := Host.exists_mem_of_place? hshows
  have hdocument : a.document = change.editor.document := congrArg Prod.fst hplace
  exact ⟨a, hone.assembly_eq ha (hdocument.trans hassembly), hid.symm⟩

@[simp] theorem visibleEditors_lineSelected :
    (s.lineSelected unit change).host.visibleEditors = s.host.visibleEditors :=
  visibleEditors_putAll

@[simp] theorem place?_lineSelected :
    (s.lineSelected unit change).host.place? = s.host.place? :=
  place?_putAll

/-- A line of the listing is put on the screen, and the ledger stays exact. -/
theorem Told.lineSelected (htold : s.Told base seen) (htidy : s.Tidy base) (hd : s.host.Distinct)
    (unit : CompiledUnit) (hshows : s.host.Shows change.editor)
    (hassembly : change.editor.document = s.sync.docs.assembly) (hid : change.editor.id = a.id) :
    (s.lineSelected unit change).screen base =
        (s.screen base).putAll (s.visible.assemblyPuts unit a change.line) ∧
      (s.lineSelected unit change).Exactly base ∧ (s.lineSelected unit change).Tidy base := by
  have hon : s.SelectedOn (s.visible.assemblyPuts unit change.editor change.line) :=
    selectedOn_assemblyPuts hshows hassembly
  refine ⟨?_, ?_, ?_⟩
  · rw [← VisibleSet.putAll_assemblyPuts_congr hid, ← htold.screen_remember htidy hd _ hon]
    rfl
  · exact ((htold.remember (some (.assembly change.line))).select (htidy.remember _) hd hon).exact
  · exact (htidy.remember _).putAll hd fun p hp => (hon p hp).2

/-- The source line that a line of the listing came from is put on the screen. -/
theorem Exactly.screen_highlightTarget (hexact : s.Exactly base) (htidy : s.Tidy base)
    (hd : s.host.Distinct) (hshows : s.host.Shows e) (target : SourceLine) (scroll : Bool) :
    (s.highlightTarget e target scroll).screen base =
      (s.screen base).putAll (VisibleSet.targetPuts e target) := by
  rw [highlightTarget_eq, screen_revealAll]
  refine (hexact.putAll htidy.toHonest hd fun p hp => ?_).1
  rw [(VisibleSet.mem_targetPuts_iff.1 hp).2]
  exact hshows

/-- The host opens no editor for a source that it shows already. -/
theorem Attends.not_opened (h : s.Attends change unit)
    (hself : unit.references s.sync.docs.assembly = false) {target : SourceLine}
    (hline : unit.definitionAt? change.line = some target)
    (hnone : s.visible.sourceFor? target.file = none) (he : e ∈ s.host.visibleEditors) :
    e.document ≠ target.file := by
  intro hdocument
  have hsource := CompiledUnit.references_of_definitionAt? hline
  have hmem : e ∈ s.visible.sources := h.mem_sources hself he (hdocument ▸ hsource)
  have hnot := List.find?_eq_none.1 hnone e hmem
  simp [hdocument] at hnot

/-- A line of the listing and the visible source line that it came from are put on the screen. -/
theorem Told.selected_mapped (htold : s.Told base seen) (htidy : s.Tidy base) (hd : s.host.Distinct)
    (hone : s.OneListing) (hshows : s.host.Shows change.editor)
    (hassembly : change.editor.document = s.sync.docs.assembly) {target : SourceLine}
    (hline : unit.definitionAt? change.line = some target)
    (he : s.visible.sourceFor? target.file = some e) :
    let t := (s.lineSelected unit change).highlightTarget e target true
    t.visible = s.visible ∧
      t.screen base = (s.screen base).putAll (s.visible.replayPuts unit t.sync.last) := by
  intro t
  obtain ⟨a, ha, hid⟩ := hone.assembly_of_shows hshows hassembly
  obtain ⟨hscreen, hexact, htidy'⟩ := htold.lineSelected htidy hd unit hshows hassembly hid
  have hmem := VisibleSet.mem_editors_of_mem_sources (VisibleSet.mem_sources_of_sourceFor? he).1
  have hrest : t.rest = (s.lineSelected unit change).rest := rest_highlightTarget target true
  have hlast : t.sync.last = some (.assembly change.line) :=
    (congrArg (·.sync.last) hrest).trans last_lineSelected
  refine ⟨(visible_eq_of_rest hrest).trans visible_lineSelected, ?_⟩
  rw [hexact.screen_highlightTarget htidy' (distinct_putAll.2 hd)
    (shows_putAll.2 (shows_of_mem_editors hmem)), hscreen, ← Screen.putAll_append, hlast]
  simp only [VisibleSet.replayPuts, ha, hline, he]

/-- A line of the listing is put on the screen, and the source that it came from is refused. -/
theorem Told.selected_refused (htold : s.Told base seen) (htidy : s.Tidy base)
    (hd : s.host.Distinct) (hone : s.OneListing) (hshows : s.host.Shows change.editor)
    (hassembly : change.editor.document = s.sync.docs.assembly) {target : SourceLine}
    (hline : unit.definitionAt? change.line = some target)
    (hnone : s.visible.sourceFor? target.file = none) :
    let t := ((s.lineSelected unit change).asked Host.openSource s.visible target.file).1
    t.host.Distinct → t.host.place? = s.host.place? →
    t.visible = s.visible ∧
      t.screen base = (s.screen base).putAll (s.visible.replayPuts unit t.sync.last) := by
  intro t hd' hplace
  obtain ⟨a, ha, hid⟩ := hone.assembly_of_shows hshows hassembly
  obtain ⟨hscreen, -, -⟩ := htold.lineSelected htidy hd unit hshows hassembly hid
  have hsame := (visibleEditors_asked hd' (hplace.trans place?_lineSelected.symm)).1
  have hvisible : t.visible = (s.lineSelected unit change).visible :=
    congrArg ((s.lineSelected unit change).sync.docs.classify ·
      (s.lineSelected unit change).sync.unit) hsame
  have hlast : t.sync.last = some (.assembly change.line) := last_lineSelected
  refine ⟨hvisible.trans visible_lineSelected, hscreen.trans ?_⟩
  rw [hlast]
  simp only [VisibleSet.replayPuts, ha, hline, hnone, List.append_nil]

/-- **What a selection leaves.**  If a selection opens no editor, then it puts on the screen what
shows it again, or else it was made in an editor of a source that is not the carrier. -/
theorem Told.selected (htold : s.Told base seen) (htidy : s.Tidy base) (hd : s.host.Distinct)
    (hone : s.OneListing) (h : s.Attends change unit) (hshows : s.host.Shows change.editor)
    (hself : unit.references s.sync.docs.assembly = false)
    (hdocument : unit.references change.editor.document = true ∨
      change.editor.document = s.sync.docs.assembly)
    (hd' : (s.onSelectionChanged change).host.Distinct)
    (hplace : (s.onSelectionChanged change).host.place? = s.host.place?) :
    (s.onSelectionChanged change).visible = s.visible ∧
      ((s.onSelectionChanged change).screen base = (s.screen base).putAll
          (s.visible.replayPuts unit (s.onSelectionChanged change).sync.last) ∨
        ∃ e ∈ s.visible.sources, (s.onSelectionChanged change).screen base e.id .selected ≠ [] ∧
          s.visible.carrier? unit (s.onSelectionChanged change).sync.last ≠ some e) := by
  have hselects := selects (s := s) Host.openSource change
  rw [← onSelectionChanged_eq] at hselects
  have hunit : ∀ {unit'}, s.Attends change unit' → unit' = unit := fun h' =>
    Option.some.inj (h'.compiled.symm.trans h.compiled)
  generalize s.onSelectionChanged change = t at hselects hd' hplace
  cases hselects with
  | ignored hnot =>
    obtain ⟨hsource, hassembly⟩ := hnot unit h
    exact absurd (hdocument.resolve_left (by simp [hsource])) hassembly
  | @source unit' h' hsource =>
    obtain rfl := hunit h'
    have hrest : ({ s with sync.last := some (.source change.editor.document change.line) :
        Synced }.selectSource unit' s.visible change.editor change.line true).rest =
          { s with sync.last := some (.source change.editor.document change.line) : Synced }.rest :=
      rest_selectSource _ _
    have hlast := congrArg (·.sync.last) hrest
    have hvisible := visible_eq_of_rest hrest
    refine ⟨hvisible, ?_⟩
    rw [show (selectSource _ _ _ _ _ _).sync.last = _ from hlast]
    exact htold.selected_source htidy hd h hshows hself hsource
  | @unmapped unit' h' hassembly hline =>
    obtain rfl := hunit h'
    obtain ⟨a, ha, hid⟩ := hone.assembly_of_shows hshows hassembly
    obtain ⟨hscreen, -, -⟩ := htold.lineSelected htidy hd unit' hshows hassembly hid
    refine ⟨visible_lineSelected, .inl ?_⟩
    rw [hscreen, last_lineSelected]
    simp only [VisibleSet.replayPuts, ha, hline, List.append_nil]
  | @mapped unit' target e h' hassembly hline he =>
    obtain rfl := hunit h'
    obtain ⟨hvisible, hscreen⟩ :=
      htold.selected_mapped htidy hd hone hshows hassembly hline he
    exact ⟨hvisible, .inl hscreen⟩
  | @refused unit' target h' hassembly hline hnone hanswer =>
    obtain rfl := hunit h'
    obtain ⟨hvisible, hscreen⟩ :=
      htold.selected_refused htidy hd hone hshows hassembly hline hnone hd' hplace
    exact ⟨hvisible, .inl hscreen⟩
  | @opened unit' target e h' hassembly hline hnone hanswer =>
    obtain rfl := hunit h'
    have hrest := rest_highlightTarget (s := ((s.lineSelected unit' change).asked Host.openSource
      s.visible target.file).1) (e := e) target true
    have hplace' := (congrArg (·.host.place?) hrest).symm.trans hplace
    have hd'' := (distinct_iff_of_rest hrest).1 hd'
    obtain ⟨hmem, hfile⟩ :=
      (visibleEditors_asked hd'' (hplace'.trans place?_lineSelected.symm)).2 e hanswer
    rw [visibleEditors_lineSelected] at hmem
    exact absurd hfile (h'.not_opened hself hline hnone hmem)

/-! ### The screen of a fresh view -/

theorem freshScreen_selected (hactive : s.visible.isActive = true) (id : String) :
    s.freshScreen id .selected =
      Screen.blank.putAll (s.visible.selections s.sync.last s.sync.unit) id .selected := by
  rw [freshScreen, if_pos hactive, VisibleSet.decorations_eq, Screen.putAll_append]
  refine Screen.putAll_congr (.inl ?_)
  by_contra hne
  obtain ⟨p, hp, hkind, -⟩ := Screen.exists_of_putAll_blank_ne hne
  have hrenewed := VisibleSet.kind_of_mem_renewals hp
  exact hrenewed hkind

/-- A fresh view has a selected line on no other source than the carrier. -/
theorem carrier_of_freshScreen_ne (hactive : s.visible.isActive = true)
    (hunit : s.sync.unit = some (.compiled unit)) (he : e ∈ s.visible.sources)
    (hne : s.freshScreen e.id .selected ≠ []) :
    unit.lines ≠ [] ∧ s.visible.carrier? unit s.sync.last = some e := by
  obtain ⟨⟨a, ha⟩, hsources⟩ := VisibleSet.isActive_iff.1 hactive
  rw [freshScreen_selected hactive, hunit] at hne
  obtain ⟨p, hp, -, hid, hlines⟩ := Screen.exists_of_putAll_blank_ne hne
  simp only [VisibleSet.selections] at hp
  split at hp
  · cases hp
  · rename_i hsome
    obtain rfl : p.editor = e := by
      have hp' := (of_mem_editors (VisibleSet.of_mem_replayPuts hp).2).1
      exact Host.eq_of_id_eq hp' (mem_sources_iff.1 he).1 hid
    refine ⟨by simpa using hsome, ?_⟩
    refine (VisibleSet.replays ha hsources).carrier_eq ha he ?_ hp hlines
    rintro rfl
    exact id_ne_of_mem_sources ha he rfl

theorem freshScreen_replayed (hactive : s.visible.isActive = true)
    (hunit : s.sync.unit = some (.compiled unit)) (hlines : unit.lines ≠ []) (id : String) :
    s.freshScreen id .selected =
      Screen.blank.putAll (s.visible.replayPuts unit s.sync.last) id .selected := by
  rw [freshScreen_selected hactive, hunit]
  simp [VisibleSet.selections, hlines]

/-- The selected lines of the carrier and of the listing are those of the last selection, so the
screen is that of a fresh view if no other source has one. -/
theorem Sound.selected_eq_fresh (h : s.Sound base) (hone : s.OneListing)
    (hactive : s.visible.isActive = true) (hunit : s.sync.unit = some (.compiled unit))
    (hlines : unit.lines ≠ []) {before : Screen}
    (hputs : s.screen base = before.putAll (s.visible.replayPuts unit s.sync.last))
    (hcarrier : ∀ e ∈ s.visible.sources, s.screen base e.id .selected ≠ [] →
      s.visible.carrier? unit s.sync.last = some e) (id : String) :
    s.screen base id .selected = s.freshScreen id .selected := by
  obtain ⟨⟨a, ha⟩, hsources⟩ := VisibleSet.isActive_iff.1 hactive
  have hreplays : s.visible.Replays unit a (s.visible.carrier? unit s.sync.last)
      (s.visible.replayPuts unit s.sync.last) := VisibleSet.replays ha hsources
  -- what was there before does not matter where something is put
  have hput : ∀ {e}, (∃ p ∈ s.visible.replayPuts unit s.sync.last, p.kind = .selected ∧
      p.editor = e) → s.screen base e.id .selected = s.freshScreen e.id .selected := by
    rintro e ⟨p, hp, hkind, rfl⟩
    rw [freshScreen_replayed hactive hunit hlines, hputs]
    exact Screen.putAll_congr (.inr ⟨p, hp, hkind, rfl⟩)
  by_cases hview : ∃ e ∈ s.visible.editors, e.id = id
  · obtain ⟨e, he, rfl⟩ := hview
    obtain he | he := List.mem_append.1 he
    · by_cases hcarries : s.visible.carrier? unit s.sync.last = some e
      · rw [hcarries] at hreplays
        exact hput (hreplays.exists_carrier ha)
      · have hnil : s.screen base e.id .selected = [] :=
          not_not.1 fun hne => hcarries (hcarrier e he hne)
        have hnil' : s.freshScreen e.id .selected = [] :=
          not_not.1 fun hne => hcarries (carrier_of_freshScreen_ne hactive hunit he hne).2
        rw [hnil, hnil']
    · obtain rfl := Option.some.inj (ha.symm.trans (Option.mem_toList.1 he))
      exact hput (hreplays.exists_assembly ha)
  · have hnil : s.screen base id .selected = [] :=
      not_not.1 fun hne => hview (h.tidy.exists_of_ne hone hne)
    rw [hnil, freshScreen_replayed hactive hunit hlines]
    by_contra hne
    obtain ⟨p, hp, -, hid, -⟩ := Screen.exists_of_putAll_blank_ne (Ne.symm hne)
    exact hview ⟨p.editor, (VisibleSet.of_mem_replayPuts hp).2, hid⟩

/-- **When the screen is that of a fresh view.**  After the last selection was put on the screen,
exactly if the marks are, the listing has a line and no source but the carrier has a selected
line. -/
theorem Sound.freshScreen_eq_iff (h : s.Sound base) (hone : s.OneListing)
    (hvisible : s.visible.isActive = true) (hunit : s.sync.unit = some (.compiled unit))
    (before : Screen)
    (hselected : s.screen base =
        before.putAll (s.visible.replayPuts unit s.sync.last) ∨
      ∃ e ∈ s.visible.sources, s.screen base e.id .selected ≠ [] ∧
        s.visible.carrier? unit s.sync.last ≠ some e) :
    s.freshScreen = s.screen base ↔
      (∀ id kind, kind ≠ .selected → s.screen base id kind = s.freshMarks id kind) ∧
        unit.lines ≠ [] ∧ ∀ e ∈ s.visible.sources, s.screen base e.id .selected ≠ [] →
          s.visible.carrier? unit s.sync.last = some e := by
  constructor
  · intro heq
    have hcarrier : ∀ e ∈ s.visible.sources, s.screen base e.id .selected ≠ [] →
        unit.lines ≠ [] ∧ s.visible.carrier? unit s.sync.last = some e := fun e he hne =>
      carrier_of_freshScreen_ne hvisible hunit he (heq ▸ hne)
    refine ⟨fun id kind hkind => ?_, ?_, fun e he hne => (hcarrier e he hne).2⟩
    · rw [← heq, freshScreen_eq_freshMarks hvisible hkind]
    · obtain hputs | ⟨e, he, hne, hnot⟩ := hselected
      · -- a listing without lines is never selected in again
        intro hempty
        obtain ⟨⟨a, ha⟩, hsources⟩ := VisibleSet.isActive_iff.1 hvisible
        obtain ⟨id, hne⟩ := (VisibleSet.replays ha hsources).exists_ne ha
          (fun e he => id_ne_of_mem_sources ha he) before
        rw [← hputs, ← heq, freshScreen_selected hvisible, hunit] at hne
        simp [VisibleSet.selections, hempty, Screen.blank] at hne
      · exact absurd (hcarrier e he hne).2 hnot
  · rintro ⟨hmarks, hlines, hcarrier⟩
    have hputs := hselected.resolve_right fun ⟨e, he, hne, hnot⟩ => hnot (hcarrier e he hne)
    funext id kind
    by_cases hkind : kind = .selected
    · rw [hkind, h.selected_eq_fresh hone hvisible hunit hlines hputs hcarrier]
    · rw [hmarks id kind hkind, freshScreen_eq_freshMarks hvisible hkind]

end Synced

end AsmExplorer
