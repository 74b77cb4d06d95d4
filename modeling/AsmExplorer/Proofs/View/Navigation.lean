import AsmExplorer.Proofs.Listing.Correspondence
import AsmExplorer.Proofs.Uri.Document
import AsmExplorer.Proofs.View.Current
import AsmExplorer.Proofs.View.Toggle

/-!
# Navigation goes both ways

A listing line and the source line that it came from lead to each other.

* A line selected in a source highlights the listing lines that came from it
  (`Synced.Attends.mem_selected_source`).
* A line selected in the listing is highlighted, and so is the source line that it came from, which
  is scrolled to; the source is opened exactly if no visible editor shows it
  (`Synced.Attends.leads_to`).
* A listing line that came from no source line leads nowhere (`Synced.Attends.leads_nowhere`).

All three hold in every scene that a run leads to (`Scene.two_way_navigation`) as long as selections
are timely: one in an editor that is hidden stays in the ledger, and hides a later one
(`Scene.stale_mark_hides_target`).
-/

namespace AsmExplorer

/-- The listing is not a source of its own unit. -/
theorem CompiledUnit.references_assembly_eq_false {u : CompiledUnit} {key : Uri}
    (h : assemblyUri u.primary = .ok key) : u.references key = false := by
  have hprimary : (key == u.primary) = false := beq_false_of_ne (ne_of_assemblyUri h)
  rw [references, hprimary, Bool.false_or]
  by_contra hcontains
  rw [Bool.not_eq_false, u.index_eq, LineIndex.containsFile_build] at hcontains
  obtain ⟨k, origin, hk, rfl⟩ := hcontains
  rw [LineIndex.sourceLine?_build, Option.bind_eq_some_iff] at hk
  obtain ⟨parsed, -, horigin⟩ := hk
  obtain ⟨loc, -, -, -, hfile, -⟩ := ParsedLine.origin?_eq_some_iff.1 horigin
  -- an assembly view has a query, and the document of a file has none
  obtain ⟨query, hquery⟩ := exists_query_of_assemblyUri h
  rw [query_eq_none_of_sourceUri hfile] at hquery
  cases hquery

/-! ### Scrolling and opening -/

/-- A request to scroll or to open a document. -/
def HostCall.navigates : HostCall → Bool
  | .reveal _ _ _ | .show _ _ _ => true
  | .set _ _ _ | .error _ => false

/-- The requests to scroll and to open, the latest first. -/
def Host.navigation (h : Host) : List HostCall :=
  h.calls.filter HostCall.navigates

/-- The first visible editor of a document. -/
def Host.editorOf? (h : Host) (document : Uri) : Option Editor :=
  h.visibleEditors.find? (·.document == document)

/-- The request to scroll an editor to a line that it has. -/
def scrollTo (e : Editor) (line : Nat) : List HostCall :=
  if line < e.lineCount then [.reveal e.id line .centerIfOutside] else []

namespace Synced

variable {base : Screen} {s : Synced} {change : SelectionChange} {unit : CompiledUnit}
  {target : SourceLine} {a e : Editor} {puts : List Put}

@[simp] theorem navigation_apply {kind : DecorationKind} {lines : List Nat} :
    (s.apply e kind lines).host.navigation = s.host.navigation := by
  unfold apply
  split <;> rfl

@[simp] theorem navigation_putAll : (s.putAll puts).host.navigation = s.host.navigation := by
  induction puts generalizing s with
  | nil => rfl
  | cons p puts ih => rw [putAll_cons, ih, navigation_apply]

theorem navigation_highlightTarget : (s.highlightTarget e target true).host.navigation =
    scrollTo e target.line ++ s.host.navigation := by
  rw [highlightTarget_eq, scrollTo]
  by_cases hline : target.line < e.lineCount
  · have hreveal : (true = true ∧ target.line < e.lineCount) := ⟨rfl, hline⟩
    rw [if_pos hreveal, if_pos hline]
    show HostCall.reveal _ _ _ :: (s.putAll _).host.navigation = _
    rw [navigation_putAll]
    rfl
  · rw [if_neg fun h => hline h.2, if_neg hline, revealAll_nil, navigation_putAll]
    rfl

@[simp] theorem navigation_lineSelected :
    (s.lineSelected unit change).host.navigation = s.host.navigation :=
  navigation_putAll

theorem navigation_asked {v : VisibleSet} {document : Uri} :
    (s.asked Host.openSource v document).1.host.navigation =
      .show document (some (columnForSources v)) true :: s.host.navigation :=
  rfl

/-! ### From a source to the listing -/

/-- A listing line is among those that a selection of its source line highlights. -/
theorem mem_highlightedLines {v : VisibleSet} {limit k : Nat}
    (hk : unit.definitionAt? k = some target) (hfile : target.file = e.document)
    (hlimit : k < limit) : k ∈ highlightedLines unit v limit e target.line := by
  have hindex : ∃ ks, unit.index.assemblyLines? e.document target.line = some ks ∧ k ∈ ks := by
    rw [CompiledUnit.definitionAt?, unit.index_eq] at hk
    rw [unit.index_eq]
    exact LineIndex.mem_assemblyLines?_build.2 ⟨target, hk, hfile, rfl⟩
  obtain ⟨ks, hks, hmem⟩ := hindex
  have hmapped : k ∈ mappedLines unit limit e.document target.line := by
    rw [mappedLines, hks, Option.getD_some, List.mem_filter]
    exact ⟨hmem, by simpa using hlimit⟩
  rw [highlightedLines, List.mem_eraseDups]
  exact List.mem_append_left _ hmapped

theorem Attends.onSelectionChanged_source (h : s.Attends change unit)
    (hsource : unit.references change.editor.document = true) : s.onSelectionChanged change =
      { s with sync.last := some (.source change.editor.document change.line) : Synced
        }.selectSource unit s.visible change.editor change.line true := by
  obtain ⟨kind, hkind⟩ := Option.isSome_iff_exists.1 h.deliberate
  simp only [onSelectionChanged, hkind, h.active, h.compiled, hsource, if_true]

/-- **A line selected in a source highlights the listing lines that came from it**, those that the
editor of the listing has. -/
theorem Attends.mem_selected_source (h : s.Attends change unit) (hcurrent : s.Current base)
    (hd : s.host.Separate) (hshows : s.host.Shows change.editor)
    (ha : s.visible.assembly = some a) {k : Nat} (hk : unit.definitionAt? k = some target)
    (hfile : target.file = change.editor.document) (hline : target.line = change.line)
    (hlimit : k < a.lineCount) :
    k ∈ (s.onSelectionChanged change).screen base a.id .selected := by
  have hsource : unit.references change.editor.document = true :=
    hfile ▸ CompiledUnit.references_of_definitionAt? hk
  have hputs := h.selectedOn_sourcePuts hshows hsource
  have hremembered := hcurrent.remember (some (.source change.editor.document change.line))
  have hscreen : (s.onSelectionChanged change).screen base =
      (s.screen base).putAll (s.visible.sourcePuts unit change.editor change.line) := by
    rw [h.onSelectionChanged_source hsource, selectSource_eq, screen_revealAll]
    exact (hremembered.putAll hd fun p hp => (hputs p hp).2.1).1
  rw [hscreen, VisibleSet.sourcePuts, ha, Screen.putAll_cons, Screen.putAll_cons, Screen.putAll_nil,
    Screen.set_self, ← hline]
  exact mem_highlightedLines hk hfile hlimit

/-! ### From the listing to a source -/

/-- A visible editor of a document that the listing refers to is one of a source. -/
theorem Attends.sourceFor?_eq (h : s.Attends change unit)
    (hself : unit.references s.sync.docs.assembly = false) {document : Uri}
    (hsource : unit.references document = true) :
    s.visible.sourceFor? document = s.host.editorOf? document := by
  have hne : document ≠ s.sync.docs.assembly := by
    rintro rfl
    rw [hself] at hsource
    cases hsource
  have hconcerns := h.isSource_iff.2 hsource
  rw [VisibleSet.sourceFor?, visible, ViewDocuments.classify, List.find?_filter, Host.editorOf?]
  -- the sources are searched for the document, and all its editors are among them
  refine congrArg (s.host.visibleEditors.find? ·) (funext fun e => ?_)
  by_cases he : e.document = document
  · simp [he, hne, hconcerns]
  · simp [he]

/-- Asking for a document that no visible editor shows opens it, unless the host refuses. -/
theorem asked_cases (v : VisibleSet) {document : Uri}
    (hnone : s.host.editorOf? document = none) :
    let answer := s.asked Host.openSource v document
    answer.2 = none ∧ answer.1.host.visibleEditors = s.host.visibleEditors ∧
        answer.1.host.place? = s.host.place? ∨
      ∃ e, answer.2 = some e ∧ e.document = document ∧ s.host.Opens answer.1.host e := by
  intro answer
  obtain ⟨heditors, hvisible, hfound⟩ | ⟨e, he, hdocument, hopens⟩ :=
    s.host.showDocument_spec document (some (columnForSources v)) true
  · refine .inl ⟨?_, ?_, ?_⟩
    · -- an editor that the host gives without opening it would be a visible one
      by_contra hsome
      obtain ⟨e, he⟩ := Option.ne_none_iff_exists'.1 hsome
      obtain ⟨hmem, hdocument⟩ := hfound e he
      have hnot := List.find?_eq_none.1 hnone e hmem
      simp [hdocument] at hnot
    · simp only [answer, asked, Host.openSource, Host.visibleEditors, Host.editor?, heditors,
        hvisible]
      rfl
    · funext id
      simp only [answer, asked, Host.openSource, Host.place?, Host.editor?, heditors, hvisible]
  · exact .inr ⟨e, he, hdocument, ⟨hopens.editors, hopens.visible⟩⟩

end Synced

/-- An editor that is opened for a document is the first visible one of it, if there was none. -/
theorem Host.Opens.editorOf?_eq {h h' : Host} {e : Editor} (ho : h.Opens h' e)
    (hnone : h.editorOf? e.document = none) : h'.editorOf? e.document = some e := by
  have hmem : e ∈ h'.visibleEditors := by
    rw [mem_visibleEditors_iff, ho.visible]
    exact ⟨by simp, ho.editor?_self⟩
  have hunique : ∀ e' ∈ h'.visibleEditors, e'.document = e.document → e' = e := by
    intro e' he' hdocument
    -- every other editor was visible before, and none of the document was
    obtain ⟨hid, hfound⟩ := mem_visibleEditors_iff.1 he'
    by_cases hsame : e'.id = e.id
    · rw [hsame, ho.editor?_self] at hfound
      exact (Option.some.inj hfound).symm
    · rw [ho.editor?_of_ne hsame] at hfound
      rw [ho.visible, List.mem_append, List.mem_singleton] at hid
      have hbefore : e' ∈ h.visibleEditors :=
        mem_visibleEditors_iff.2 ⟨hid.resolve_right hsame, hfound⟩
      have hnot := List.find?_eq_none.1 hnone e' hbefore
      simp [hdocument] at hnot
  cases hfound : h'.editorOf? e.document with
  | none =>
    have hnot := List.find?_eq_none.1 hfound e hmem
    simp at hnot
  | some e' =>
    have hdocument : e'.document = e.document := by simpa using List.find?_some hfound
    rw [hunique e' (List.mem_of_find?_eq_some hfound) hdocument]

namespace Synced

variable {base : Screen} {s t : Synced} {change : SelectionChange} {unit : CompiledUnit}
  {target : SourceLine} {a e : Editor}

theorem Current.lineSelected (h : s.Current base) (hd : s.host.Separate)
    (hshows : s.host.Shows change.editor)
    (hassembly : change.editor.document = s.sync.docs.assembly) :
    (s.lineSelected unit change).screen base =
        (s.screen base).putAll (s.visible.assemblyPuts unit change.editor change.line) ∧
      (s.lineSelected unit change).Current base :=
  (h.remember (some (.assembly change.line))).putAll hd fun p hp =>
    (selectedOn_assemblyPuts hshows hassembly p hp).2.1

@[simp] theorem editorOf?_lineSelected {document : Uri} :
    (s.lineSelected unit change).host.editorOf? document = s.host.editorOf? document := by
  rw [Host.editorOf?, visibleEditors_lineSelected, Host.editorOf?]

/-- Of a line of the listing that came from a source line, only itself is highlighted at first. -/
theorem Current.selected_lineSelected (h : s.Current base) (hd : s.host.Separate)
    (hshows : s.host.Shows change.editor)
    (hassembly : change.editor.document = s.sync.docs.assembly)
    (hline : unit.definitionAt? change.line = some target) :
    (s.lineSelected unit change).screen base change.editor.id .selected = [change.line] := by
  rw [(h.lineSelected hd hshows hassembly).1, VisibleSet.assemblyPuts, hline, Screen.putAll_cons,
    Screen.putAll_nil, Screen.set_self]

/-- The ledger has nothing for an editor of a document that no visible editor shows. -/
theorem Current.get?_of_closed (h : s.Current base) (hnone : s.host.editorOf? e.document = none)
    (kind : DecorationKind) : s.sync.ledger.get? (Ledger.slot e kind) = none := by
  by_contra hnoted
  obtain ⟨lines, hlines⟩ := Option.ne_none_iff_exists'.1 hnoted
  obtain ⟨id, hplace⟩ := h.covered _ _ hlines
  obtain ⟨e', he', -, hat⟩ := Host.exists_mem_of_place? hplace
  have hsame : e'.document = e.document := congrArg Prod.fst hat
  have hnot := List.find?_eq_none.1 hnone e' he'
  simp [hsame] at hnot

/-- What comes of selecting a line of the listing that came from a source line. -/
structure LeadsTo (base : Screen) (s t : Synced) (a : Editor) (line : Nat) (target : SourceLine) :
    Prop where
  /-- The line is highlighted in the editor of the listing. -/
  listing : t.host.Shows a → t.screen base a.id .selected = [line]
  /-- The editor of the listing stays, unless the host opens another under its name. -/
  stays : t.host.Distinct → t.host.Shows a
  /-- The source is opened if no visible editor shows it, and then its first visible editor is
  scrolled to the source line if it has it. -/
  navigation : t.host.navigation =
    (t.host.editorOf? target.file).elim [] (scrollTo · target.line) ++
      (if s.host.editorOf? target.file = none then
        [.show target.file (some (columnForSources s.visible)) true] else []) ++
      s.host.navigation
  /-- In that editor the source line is highlighted, and no other. -/
  source : ∀ e, t.host.editorOf? target.file = some e → target.line < e.lineCount →
    t.screen base e.id .selected = [target.line]

/-- Where the ledger has nothing for the editor of a source, its line is put on the screen. -/
theorem screen_highlightTarget_of_none
    (hnone : s.sync.ledger.get? (Ledger.slot e .selected) = none) :
    (s.highlightTarget e target true).screen base =
      (s.screen base).putAll (VisibleSet.targetPuts e target) := by
  rw [highlightTarget_eq, screen_revealAll, VisibleSet.targetPuts]
  split
  · rfl
  · rw [putAll_cons, putAll_nil, screen_apply, if_neg (by simp [hnone])]
    rfl

theorem screen_targetPuts_self (screen : Screen) (hline : target.line < e.lineCount) :
    screen.putAll (VisibleSet.targetPuts e target) e.id .selected = [target.line] := by
  rw [VisibleSet.targetPuts, if_neg (Nat.not_le.2 hline), Screen.putAll_cons, Screen.putAll_nil,
    Screen.set_self]

theorem screen_targetPuts_of_ne (screen : Screen) {id : String} (hid : id ≠ e.id)
    (kind : DecorationKind) :
    screen.putAll (VisibleSet.targetPuts e target) id kind = screen id kind := by
  refine Screen.putAll_of_forall_ne fun p hp _ heq => hid ?_
  rw [← heq, (VisibleSet.mem_targetPuts_iff.1 hp).2]

/-- The source is visible. -/
theorem Current.leadsTo_mapped (h : s.Current base) (hd : s.host.Separate)
    (hshows : s.host.Shows change.editor)
    (hassembly : change.editor.document = s.sync.docs.assembly)
    (ha : s.visible.assembly = some a) (hid : change.editor.id = a.id)
    (hline : unit.definitionAt? change.line = some target)
    (hfor : s.visible.sourceFor? target.file = some e)
    (hfirst : s.host.editorOf? target.file = some e) :
    s.LeadsTo base ((s.lineSelected unit change).highlightTarget e target true) a change.line
      target := by
  have hselected := h.selected_lineSelected hd hshows hassembly hline
  have hcurrent : (s.lineSelected unit change).Current base :=
    (h.lineSelected hd hshows hassembly).2
  have hsource : e ∈ s.visible.sources := (VisibleSet.mem_sources_of_sourceFor? hfor).1
  have hrest : ((s.lineSelected unit change).highlightTarget e target true).rest =
      (s.lineSelected unit change).rest := rest_highlightTarget target true
  have heditors : ((s.lineSelected unit change).highlightTarget e target true).host.visibleEditors =
      s.host.visibleEditors :=
    (congrArg (·.host.visibleEditors) hrest).trans visibleEditors_lineSelected
  have hfirst' : ((s.lineSelected unit change).highlightTarget e target true).host.editorOf?
      target.file = some e := by
    rw [Host.editorOf?, heditors]
    exact hfirst
  have hplace : ((s.lineSelected unit change).highlightTarget e target true).host.place? =
      s.host.place? := (congrArg (·.host.place?) hrest).trans place?_putAll
  have hscreen : ((s.lineSelected unit change).highlightTarget e target true).screen base =
      ((s.lineSelected unit change).screen base).putAll (VisibleSet.targetPuts e target) := by
    rw [highlightTarget_eq, screen_revealAll]
    refine (hcurrent.putAll (separate_putAll.2 hd) fun p hp => ?_).1
    rw [(VisibleSet.mem_targetPuts_iff.1 hp).2]
    exact shows_putAll.2 (shows_of_mem_editors (VisibleSet.mem_editors_of_mem_sources hsource))
  -- the editor of the source is not that of the listing, which so keeps its line
  refine ⟨fun _ => ?_, fun _ => ?_, ?_, fun e' he' hlt => ?_⟩
  · rw [hscreen, screen_targetPuts_of_ne _ (id_ne_of_mem_sources ha hsource).symm, ← hid]
    exact hselected
  · rw [Host.Shows, hplace]
    exact Host.shows_of_mem (mem_visibleEditors_of_assembly ha).1
  · rw [hfirst', hfirst, navigation_highlightTarget, navigation_lineSelected]
    simp
  · obtain rfl := Option.some.inj (hfirst'.symm.trans he')
    rw [hscreen, screen_targetPuts_self _ hlt]

/-- The source is not visible, and the host refuses to open it. -/
theorem Current.leadsTo_refused (h : s.Current base) (hd : s.host.Separate)
    (hshows : s.host.Shows change.editor)
    (hassembly : change.editor.document = s.sync.docs.assembly)
    (ha : s.visible.assembly = some a) (hid : change.editor.id = a.id)
    (hline : unit.definitionAt? change.line = some target)
    (hnone : s.host.editorOf? target.file = none)
    (ht : t = ((s.lineSelected unit change).asked Host.openSource s.visible target.file).1)
    (heditors : t.host.visibleEditors = s.host.visibleEditors)
    (hplace : t.host.place? = s.host.place?) : s.LeadsTo base t a change.line target := by
  have hfirst : t.host.editorOf? target.file = none := by
    rw [Host.editorOf?, heditors]
    exact hnone
  refine ⟨fun _ => ?_, fun _ => ?_, ?_, fun e he => ?_⟩
  · rw [ht, ← hid]
    exact h.selected_lineSelected hd hshows hassembly hline
  · rw [Host.Shows, hplace]
    exact Host.shows_of_mem (mem_visibleEditors_of_assembly ha).1
  · rw [hfirst, if_pos hnone, ht, navigation_asked, navigation_lineSelected]
    rfl
  · rw [hfirst] at he
    cases he

/-- The source is not visible, and the host opens it.  No visible editor stands in the place of the
new one, so the ledger has nothing for it. -/
theorem Current.leadsTo_opened (h : s.Current base) (hd : s.host.Separate)
    (hshows : s.host.Shows change.editor)
    (hassembly : change.editor.document = s.sync.docs.assembly)
    (ha : s.visible.assembly = some a) (hid : change.editor.id = a.id)
    (hline : unit.definitionAt? change.line = some target)
    (hne : target.file ≠ s.sync.docs.assembly) (hnone : s.host.editorOf? target.file = none)
    (he : e.document = target.file)
    (hopens : (s.lineSelected unit change).host.Opens
      ((s.lineSelected unit change).asked Host.openSource s.visible target.file).1.host e) :
    s.LeadsTo base (((s.lineSelected unit change).asked Host.openSource s.visible
      target.file).1.highlightTarget e target true) a change.line target := by
  obtain ⟨hlisting, hdocument⟩ := mem_visibleEditors_of_assembly ha
  have hselected := h.selected_lineSelected hd hshows hassembly hline
  have hcurrent : (s.lineSelected unit change).Current base :=
    (h.lineSelected hd hshows hassembly).2
  have hclosed : (s.lineSelected unit change).host.editorOf? e.document = none := by
    rw [editorOf?_lineSelected, he]
    exact hnone
  let opened := ((s.lineSelected unit change).asked Host.openSource s.visible target.file).1
  have hfirst : opened.host.editorOf? target.file = some e := by
    rw [← he]
    exact hopens.editorOf?_eq hclosed
  have hrest : (opened.highlightTarget e target true).rest = opened.rest :=
    rest_highlightTarget target true
  have hfirst' : (opened.highlightTarget e target true).host.editorOf? target.file = some e :=
    (congrArg (·.host.editorOf? target.file) hrest).trans hfirst
  have hplace : (opened.highlightTarget e target true).host.place? = opened.host.place? :=
    congrArg (·.host.place?) hrest
  have hscreen : (opened.highlightTarget e target true).screen base =
      ((s.lineSelected unit change).screen base).putAll (VisibleSet.targetPuts e target) :=
    screen_highlightTarget_of_none (hcurrent.get?_of_closed hclosed .selected)
  refine ⟨fun hshown => ?_, fun hdistinct => ?_, ?_, fun e' he' hlt => ?_⟩
  · -- under the name of the listing's editor, the new one would stand in its place
    have hother : a.id ≠ e.id := by
      intro hsame
      rw [Host.Shows, hplace, hsame] at hshown
      have hshown' := hopens.shows.symm.trans hshown
      have hfile : e.document = a.document := congrArg Prod.fst (Option.some.inj hshown')
      exact hne (he.symm.trans (hfile.trans hdocument))
    rw [hscreen, screen_targetPuts_of_ne _ hother, ← hid]
    exact hselected
  · rw [Host.Shows, hplace]
    have hshown : (s.lineSelected unit change).host.place? a.id = some (a.document, a.column) :=
      (congrFun place?_putAll a.id).trans (Host.shows_of_mem hlisting)
    obtain hsame | hgone := hopens.keeps ((distinct_iff_of_rest hrest).1 hdistinct) a.id
    · exact hsame.trans hshown
    · rw [hshown] at hgone
      cases hgone
  · rw [hfirst', if_pos hnone, navigation_highlightTarget, navigation_asked,
      navigation_lineSelected]
    simp
  · obtain rfl := Option.some.inj (hfirst'.symm.trans he')
    rw [hscreen, screen_targetPuts_self _ hlt]

/-- **A line selected in the listing leads to the source line that it came from.** -/
theorem Attends.leads_to (h : s.Attends change unit) (hcurrent : s.Current base)
    (hd : s.host.Separate) (hone : s.OneListing) (ha : s.visible.assembly = some a)
    (hself : unit.references s.sync.docs.assembly = false) (hshows : s.host.Shows change.editor)
    (hassembly : change.editor.document = s.sync.docs.assembly)
    (hline : unit.definitionAt? change.line = some target) :
    s.LeadsTo base (s.onSelectionChanged change) a change.line target := by
  obtain ⟨a', ha', hid⟩ := hone.assembly_of_shows hshows hassembly
  obtain rfl := Option.some.inj (ha.symm.trans ha')
  have hsource := CompiledUnit.references_of_definitionAt? hline
  have hne : target.file ≠ s.sync.docs.assembly := by
    intro heq
    rw [heq, hself] at hsource
    cases hsource
  have hfor := h.sourceFor?_eq hself hsource
  have hunit : ∀ {unit'}, s.Attends change unit' → unit' = unit := fun h' =>
    Option.some.inj (h'.compiled.symm.trans h.compiled)
  have hselects := selects (s := s) Host.openSource change
  rw [← onSelectionChanged_eq] at hselects
  generalize s.onSelectionChanged change = t at hselects
  -- the listing is no source, so the line leads somewhere in the last three cases only
  cases hselects with
  | ignored hnot => exact absurd hassembly (hnot unit h).2
  | source h' hsource' =>
    rw [hunit h', hassembly, hself] at hsource'
    cases hsource'
  | unmapped h' _ hline' =>
    rw [hunit h', hline] at hline'
    cases hline'
  | mapped h' _ hline' he =>
    obtain rfl := (hunit h').symm
    obtain rfl := Option.some.inj (hline.symm.trans hline')
    exact hcurrent.leadsTo_mapped hd hshows hassembly ha hid hline he (hfor ▸ he)
  | refused h' _ hline' hnone hanswer =>
    obtain rfl := (hunit h').symm
    obtain rfl := Option.some.inj (hline.symm.trans hline')
    rw [hfor] at hnone
    have hclosed : (s.lineSelected unit change).host.editorOf? target.file = none :=
      editorOf?_lineSelected.trans hnone
    obtain ⟨-, heditors, hplace⟩ | ⟨e, hopened, -⟩ :=
      asked_cases s.visible hclosed
    · exact hcurrent.leadsTo_refused hd hshows hassembly ha hid hline hnone rfl
        (heditors.trans visibleEditors_lineSelected) (hplace.trans place?_putAll)
    · rw [hanswer] at hopened
      cases hopened
  | opened h' _ hline' hnone hanswer =>
    obtain rfl := (hunit h').symm
    obtain rfl := Option.some.inj (hline.symm.trans hline')
    rw [hfor] at hnone
    have hclosed : (s.lineSelected unit change).host.editorOf? target.file = none :=
      editorOf?_lineSelected.trans hnone
    obtain ⟨hrefused, -⟩ | ⟨e, hopened, hdocument, hopens⟩ :=
      asked_cases s.visible hclosed
    · rw [hanswer] at hrefused
      cases hrefused
    · obtain rfl := Option.some.inj (hanswer.symm.trans hopened)
      exact hcurrent.leadsTo_opened hd hshows hassembly ha hid hline hne hnone hdocument hopens

theorem Attends.onSelectionChanged_unmapped (h : s.Attends change unit)
    (hself : unit.references s.sync.docs.assembly = false)
    (hassembly : change.editor.document = s.sync.docs.assembly)
    (hline : unit.definitionAt? change.line = none) :
    s.onSelectionChanged change = s.lineSelected unit change := by
  obtain ⟨kind, hkind⟩ := Option.isSome_iff_exists.1 h.deliberate
  have hnot : unit.references change.editor.document = false := hassembly ▸ hself
  simp only [onSelectionChanged, lineSelected, hkind, h.active, h.compiled, hnot,
    Bool.false_eq_true, if_false, if_pos hassembly, hline]
  exact highlightAssembly_eq change.line

/-- **A line selected in the listing that came from no source line leads nowhere**, and no source
shows a selection. -/
theorem Attends.leads_nowhere (h : s.Attends change unit) (hcurrent : s.Current base)
    (hd : s.host.Separate) (hone : s.OneListing) (ha : s.visible.assembly = some a)
    (hself : unit.references s.sync.docs.assembly = false) (hshows : s.host.Shows change.editor)
    (hassembly : change.editor.document = s.sync.docs.assembly)
    (hline : unit.definitionAt? change.line = none) :
    let t := s.onSelectionChanged change
    t.host.navigation = s.host.navigation ∧ t.screen base a.id .selected = [change.line] ∧
      t.visible.sources = s.visible.sources ∧
      ∀ e ∈ s.visible.sources, t.screen base e.id .selected = [] := by
  intro t
  obtain ⟨a', ha', hid⟩ := hone.assembly_of_shows hshows hassembly
  obtain rfl := Option.some.inj (ha.symm.trans ha')
  have ht : t = s.lineSelected unit change := h.onSelectionChanged_unmapped hself hassembly hline
  rw [ht, navigation_lineSelected, visible_lineSelected,
    (hcurrent.lineSelected hd hshows hassembly).1]
  refine ⟨rfl, ?_, rfl, fun e he => ?_⟩
  · refine Screen.putAll_of_forall_eq (fun p hp _ hsame => ?_)
      (.inr ⟨⟨change.editor, .selected, [change.line]⟩, List.mem_cons_self, rfl, hid⟩)
    obtain ⟨-, ⟨-, hlines⟩ | ⟨hsource, -⟩⟩ := VisibleSet.of_mem_assemblyPuts hp
    · exact hlines
    · exact absurd hsame (id_ne_of_mem_sources ha hsource)
  · have hput : (⟨e, .selected, []⟩ : Put) ∈
        s.visible.assemblyPuts unit change.editor change.line := by
      rw [VisibleSet.assemblyPuts, hline]
      exact List.mem_cons_of_mem _ (List.mem_map.2 ⟨e, he, rfl⟩)
    refine Screen.putAll_of_forall_eq (fun p hp _ hsame => ?_) (.inr ⟨_, hput, rfl, rfl⟩)
    obtain ⟨-, ⟨heditor, -⟩ | ⟨-, hlines, -⟩⟩ := VisibleSet.of_mem_assemblyPuts hp
    · rw [heditor, hid] at hsame
      exact absurd hsame.symm (id_ne_of_mem_sources ha he)
    · exact hlines

end Synced

namespace Scene

variable {s : Scene} {change : SelectionChange} {unit : CompiledUnit} {a : Editor}

/-- **A listing line and the source line that it came from lead to each other.**

The scene is any that a run leads to in which selections are timely, once the view was told of the
latest change, is active and has a listing, which is not a source of itself.  No two visible editors
stand in the same place, and one visible editor shows the listing. -/
theorem two_way_navigation (docs : ViewDocuments) (settings : SyncSettings) (host : Host)
    (events : List Event) (unit : CompiledUnit) (a : Editor) :
    let start := initial docs settings host
    let s := start.afterAll events
    let selected := fun change => s.after (.command (.selection change))
    start.TimelyAll events →
    s.news = false → s.Distinct → s.OneListing → s.view.visible.assembly = some a →
    s.view.sync.phase = .active → s.view.compiled? = some unit →
    unit.references docs.assembly = false →
    (∀ change k target, change.kind.isSome → s.view.host.Shows change.editor →
      unit.definitionAt? k = some target → target.file = change.editor.document →
      target.line = change.line → k < a.lineCount →
      k ∈ (selected change).screen a.id .selected) ∧
    (∀ change target, change.kind.isSome → s.view.host.Shows change.editor →
      change.editor.document = docs.assembly → unit.definitionAt? change.line = some target →
      s.view.LeadsTo (selected change).base (selected change).view a change.line target) ∧
    (∀ change, change.kind.isSome → s.view.host.Shows change.editor →
      change.editor.document = docs.assembly → unit.definitionAt? change.line = none →
      (selected change).view.host.navigation = s.view.host.navigation ∧
        (selected change).screen a.id .selected = [change.line] ∧
        ∀ e ∈ (selected change).view.visible.sources,
          (selected change).screen e.id .selected = []) := by
  intro start s selected htimely hnews hd hone ha hactive hcompiled hself
  have hd' : s.view.host.Separate := Host.Distinct.separate hd
  have hcurrent : s.view.Current s.base :=
    current_afterAll docs settings host htimely hnews hd'
  have hdocs : s.view.sync.docs = docs := congrArg Prod.fst (given_afterAll start events)
  rw [← hdocs] at hself ⊢
  refine ⟨fun change k target hkind hshows hk hfile hline hlimit => ?_,
    fun change target hkind hshows hassembly hline => ?_,
    fun change hkind hshows hassembly hline => ?_⟩
  all_goals have hattends : s.view.Attends change unit := ⟨hkind, hactive, hcompiled⟩
  · exact hattends.mem_selected_source hcurrent hd' hshows ha hk hfile hline hlimit
  · exact hattends.leads_to hcurrent hd' hone ha hself hshows hassembly hline
  · obtain ⟨hnavigation, hlisting, hsources, hblank⟩ :=
      hattends.leads_nowhere hcurrent hd' hone ha hself hshows hassembly hline
    exact ⟨hnavigation, hlisting, fun e he => hblank e (hsources ▸ he)⟩

/-- The source and the listing are visible, and the header is closed. -/
def headerClosed : Host :=
  showing [sourceEditor, listingEditor]

/-- The editor that the host opens for the header. -/
def openedHeader : Editor :=
  { headerEditor with
    id := "opened:file:///b.h", lineCount := Host.defaultLength, column := some 1 }

theorem compiled?_compiledRun (host : Host) :
    ((initial exampleDocs {} host).afterAll compiledRun).view.compiled? = some exampleUnit := by
  rw [Synced.compiled?_eq_some_iff, compiledRun, afterAll, afterAll, afterAll, view_command]
  exact Synced.unit_handle _

/-- A line of the source leads to the line of the listing that came from it, and a line of the
listing leads to the header, which is opened. -/
theorem header_opened :
    let s := (initial exampleDocs {} headerClosed).afterAll compiledRun
    let t := s.after (select listingEditor 1)
    0 ∈ (s.after (select sourceEditor 1)).screen "listing" .selected ∧
      t.view.host.navigation = [.reveal openedHeader.id 0 .centerIfOutside,
        .show exampleHeader (some 1) true] ∧
      t.screen openedHeader.id .selected = [0] ∧ t.screen "listing" .selected = [1] := by
  intro s t
  obtain ⟨hlisting, hsource, -⟩ := two_way_navigation exampleDocs {} headerClosed compiledRun
    exampleUnit listingEditor (by decide +kernel) (by decide +kernel) (by decide +kernel)
    (by decide +kernel) (by decide +kernel) (by decide +kernel) (compiled?_compiledRun headerClosed)
    (CompiledUnit.references_assembly_eq_false assemblyUri_exampleSource)
  have hmarked := hlisting ⟨sourceEditor, 1, some .mouse⟩ 0 ⟨exampleSource, 1, none⟩ rfl
    (by decide +kernel) (by decide +kernel) rfl rfl (by decide +kernel)
  have hleads := hsource ⟨listingEditor, 1, some .mouse⟩ ⟨exampleHeader, 0, none⟩ rfl
    (by decide +kernel) rfl (by decide +kernel)
  exact ⟨hmarked, hleads.navigation.trans (by decide +kernel),
    hleads.source openedHeader (by decide +kernel) (by decide +kernel),
    hleads.listing (by decide +kernel)⟩

/-- The editor of the header, hidden in the first column. -/
def hiddenHeader : Editor :=
  { headerEditor with column := some 1 }

/-- **A source line that is not highlighted.**  A line is selected in an editor that is hidden, and
then a line of the listing leads to the same line of the same document.  The ledger has that line as
highlighted in the first column, so the editor that the host opens there stays blank. -/
theorem stale_mark_hides_target :
    let host := { showing [sourceEditor, hiddenHeader, listingEditor] with
      visible := ["source", "listing"] }
    let s := (initial exampleDocs {} host).afterAll (compiledRun ++ [select hiddenHeader 0])
    let t := s.after (select listingEditor 1)
    s.news = false ∧ s.Distinct ∧ s.OneListing ∧ s.view.visible.assembly = some listingEditor ∧
      s.view.sync.phase = .active ∧
      s.view.compiled?.bind (·.definitionAt? 1) = some ⟨exampleHeader, 0, none⟩ ∧
      s.view.host.Shows listingEditor ∧
      t.view.host.editorOf? exampleHeader = some openedHeader ∧ 0 < openedHeader.lineCount ∧
      t.screen openedHeader.id .selected = [] := by
  decide +kernel

end Scene

end AsmExplorer
