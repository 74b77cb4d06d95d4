import AsmExplorer.Proofs.View.Scrolling

/-!
# The highlighted lines of the listing

A line selected in a source highlights the listing lines that came from it, and after them those
that came from the cursor lines of the other visible sources, each once
(`Synced.nodup_highlightedLines`, `Synced.mem_highlightedLines_iff`).

They are put on the screen unless the ledger has them already, so the ledger must be exact for the
selected lines of the listing (`Synced.Listed`).  A selection leaves it so if it names its editor as
the host has it (`Synced.Faithful`).  Hidden editors of sources do no harm; but a hidden editor of
the listing may share the column of the visible one, and what is noted for it hides what comes later
(`Scene.hidden_listing_hides_highlight`).

* `Scene.Listed.after` : every event leaves the ledger exact.
* `Scene.highlight_exact` : so the highlighted lines of the listing are exactly those.
-/

namespace AsmExplorer

namespace Synced

variable {base base' : Screen} {s t : Synced} {e e' : Editor} {kind kind' : DecorationKind}
  {lines : List Nat} {puts : List Put} {reveals : List (Editor × Nat)}

/-! ### The lines -/

theorem nodup_eraseDups (l : List Nat) : l.eraseDups.Nodup := by
  cases l with
  | nil => exact List.nodup_nil
  | cons first rest =>
    rw [List.eraseDups_cons, List.nodup_cons]
    exact ⟨by simp, nodup_eraseDups _⟩
termination_by l.length
decreasing_by simpa using Nat.lt_succ_of_le (List.length_filter_le _ rest)

theorem eraseDups_eq_self {l : List Nat} (h : l.Nodup) : l.eraseDups = l := by
  induction l with
  | nil => rfl
  | cons first rest ih =>
    obtain ⟨hfirst, hrest⟩ := List.nodup_cons.1 h
    have hkept : rest.filter (fun k => !k == first) = rest := by
      refine List.filter_eq_self.2 fun k hk => ?_
      have hne : k ≠ first := fun heq => hfirst (heq ▸ hk)
      simp [hne]
    rw [List.eraseDups_cons, hkept, ih hrest]

section Lines

variable {unit : CompiledUnit} {v : VisibleSet} {limit line k : Nat}

theorem nodup_highlightedLines : (highlightedLines unit v limit e line).Nodup :=
  nodup_eraseDups _

/-- The highlighted lines came from the selected line or from the cursor line of another source. -/
theorem mem_highlightedLines_iff : k ∈ highlightedLines unit v limit e line ↔
    k ∈ unit.linesFrom limit e.document line ∨
      ∃ other ∈ v.sources, other.document ≠ e.document ∧
        k ∈ unit.linesFrom limit other.document other.cursor := by
  rw [highlightedLines, List.mem_eraseDups, List.mem_append, mem_mappedLines_iff]
  refine or_congr_right ?_
  simp only [List.mem_flatMap, List.mem_filter, bne_iff_ne, ne_eq, mem_mappedLines_iff, and_assoc]

theorem mappedLines_prefix_highlightedLines :
    mappedLines unit limit e.document line <+: highlightedLines unit v limit e line := by
  have hnodup : (mappedLines unit limit e.document line).Nodup :=
    pairwise_mappedLines.imp Nat.ne_of_lt
  rw [highlightedLines, List.eraseDups_append, eraseDups_eq_self hnodup]
  exact List.prefix_append _ _

end Lines

/-! ### The selected lines of the listing -/

/-- The ledger is exact for the selected lines of the visible listing. -/
def Listed (base : Screen) (s : Synced) : Prop :=
  ∀ e, s.host.Shows e → e.document = s.sync.docs.assembly → s.Exact base e .selected

/-- An editor is named as the host has it, if it is visible or one of the listing. -/
def Faithful (s : Synced) (e : Editor) : Prop :=
  e.document = s.sync.docs.assembly ∨ (s.host.place? e.id).isSome → s.host.Shows e

theorem soleListing_putAll : (s.putAll puts).SoleListing ↔ s.SoleListing :=
  soleListing_congr docs_putAll place?_putAll

theorem faithful_of_mem_editors (h : e ∈ s.visible.editors) : s.Faithful e :=
  fun _ => shows_of_mem_editors h

theorem SoleListing.slot_eq_iff (hsole : s.SoleListing) (he : s.host.Shows e)
    (hlisting : e.document = s.sync.docs.assembly) (hfaithful : s.Faithful e') :
    Ledger.slot e kind = Ledger.slot e' kind' ↔ e.id = e'.id ∧ kind = kind' := by
  constructor
  · intro hslot
    obtain ⟨hdocument, -, hkind⟩ : e.document = e'.document ∧ e.column = e'.column ∧
        kind = kind' := by simpa [Ledger.slot] using hslot
    have hlisting' : e'.document = s.sync.docs.assembly := hdocument ▸ hlisting
    exact ⟨hsole _ _ _ _ he (hfaithful (.inl hlisting')) hlisting hlisting', hkind⟩
  · rintro ⟨hid, rfl⟩
    have hshown : s.host.place? e'.id = some (e.document, e.column) := hid ▸ he
    have hshown' : s.host.place? e'.id = some (e'.document, e'.column) :=
      hfaithful (.inr (by rw [hshown]; rfl))
    obtain ⟨hdocument, hcolumn⟩ := Prod.mk.inj (Option.some.inj (hshown.symm.trans hshown'))
    rw [Ledger.slot, Ledger.slot, hdocument, hcolumn]

namespace Listed

/-- What is put on the listing is seen. -/
theorem screen_apply (h : s.Listed base) (hsole : s.SoleListing) (he : s.host.Shows e)
    (hlisting : e.document = s.sync.docs.assembly) {p : Put} (hfaithful : s.Faithful p.editor) :
    (s.apply p.editor p.kind p.lines).screen base e.id .selected =
      (s.screen base).set p.editor.id p.kind p.lines e.id .selected := by
  rw [Synced.screen_apply]
  split
  · rename_i hnoted
    by_cases hsame : e.id = p.editor.id ∧ .selected = p.kind
    · have hslot := (hsole.slot_eq_iff he hlisting hfaithful).2 hsame
      rw [h e he hlisting p.lines (hslot ▸ hnoted), hsame.1, hsame.2, Screen.set_self]
    · rw [Screen.set_of_ne hsame]
  · rfl

theorem apply (h : s.Listed base) (hsole : s.SoleListing) {p : Put}
    (hfaithful : s.Faithful p.editor) : (s.apply p.editor p.kind p.lines).Listed base := by
  intro e he hlisting noted hnoted
  rw [Host.Shows, place?_apply] at he
  have hdocs : (s.apply p.editor p.kind p.lines).sync.docs = s.sync.docs :=
    congrArg (·.sync.docs) (rest_apply ..)
  rw [hdocs] at hlisting
  rw [h.screen_apply hsole he hlisting hfaithful]
  rw [get?_apply] at hnoted
  by_cases hsame : e.id = p.editor.id ∧ .selected = p.kind
  · rw [if_pos ((hsole.slot_eq_iff he hlisting hfaithful).2 hsame)] at hnoted
    rw [hsame.1, hsame.2, Screen.set_self]
    exact Option.some.inj hnoted
  · rw [if_neg (mt (hsole.slot_eq_iff he hlisting hfaithful).1 hsame)] at hnoted
    rw [Screen.set_of_ne hsame]
    exact h e he hlisting noted hnoted

/-- What is put on faithfully named editors is seen on the listing, and the ledger stays exact. -/
theorem putAll (h : s.Listed base) (hsole : s.SoleListing)
    (hfaithful : ∀ p ∈ puts, s.Faithful p.editor) :
    (∀ e, s.host.Shows e → e.document = s.sync.docs.assembly →
        (s.putAll puts).screen base e.id .selected =
          (s.screen base).putAll puts e.id .selected) ∧
      (s.putAll puts).Listed base := by
  induction puts generalizing s with
  | nil => exact ⟨fun _ _ _ => rfl, h⟩
  | cons p puts ih =>
    have hp : s.Faithful p.editor := hfaithful p List.mem_cons_self
    have hrest : (s.apply p.editor p.kind p.lines).rest = s.rest := rest_apply ..
    have hdocs : (s.apply p.editor p.kind p.lines).sync.docs = s.sync.docs :=
      congrArg (·.sync.docs) hrest
    have hsole' : (s.apply p.editor p.kind p.lines).SoleListing :=
      (soleListing_congr hdocs place?_apply).2 hsole
    obtain ⟨hscreen, hlisted⟩ := ih (h.apply hsole hp) hsole' fun q hq => by
      rw [Faithful, Host.Shows, place?_apply, hdocs]
      exact hfaithful q (List.mem_cons_of_mem _ hq)
    refine ⟨fun e he hlisting => ?_, hlisted⟩
    rw [putAll_cons, hscreen e (by rwa [Host.Shows, place?_apply]) (hdocs ▸ hlisting),
      Screen.putAll_cons]
    exact Screen.putAll_congr (.inl (h.screen_apply hsole he hlisting hp))

theorem putVisible (h : s.Listed base) (hsole : s.SoleListing)
    (hputs : ∀ p ∈ puts, p.editor ∈ s.visible.editors) : (s.putAll puts).Listed base :=
  (h.putAll hsole fun p hp => faithful_of_mem_editors (hputs p hp)).2

theorem of_host (h : s.Listed base) (hdocs : t.sync.docs = s.sync.docs)
    (hledger : t.sync.ledger = s.sync.ledger) (hplace : t.host.place? = s.host.place?)
    (hscreen : t.screen base' = s.screen base) : t.Listed base' := by
  intro e he hlisting lines hnoted
  rw [Host.Shows, hplace] at he
  rw [hdocs] at hlisting
  rw [hledger] at hnoted
  rw [hscreen]
  exact h e he hlisting lines hnoted

theorem of_empty (hledger : s.sync.ledger = {}) : s.Listed base :=
  fun e he _ => Exactly.of_empty hledger e .selected he

theorem revealAll (h : s.Listed base) : (s.revealAll reveals).Listed base := by
  refine h.of_host ?_ ?_ place?_revealAll screen_revealAll <;> rw [sync_revealAll]

/-! ### The reactions leave the ledger exact -/

theorem blanks (h : s.Listed base) (hsole : s.SoleListing) :
    (s.putAll s.visible.blanks).Listed base :=
  h.putVisible hsole fun _ hp => (VisibleSet.mem_blanks_iff.1 hp).1

theorem refresh (h : s.Listed base) (hsole : s.SoleListing) : s.refresh.Listed base := by
  have hphase : (s.updatePhase s.visible).Listed base := h.of_host rfl rfl rfl rfl
  rw [refresh_eq]
  refine (hphase.blanks hsole).putVisible (soleListing_putAll.2 hsole) fun p hp => ?_
  rw [visible_putAll]
  split at hp
  · exact VisibleSet.mem_editors_of_mem_decorations hp
  · cases hp

theorem onUnitChanged (h : s.Listed base) (hsole : s.SoleListing) (state : UnitState) :
    (s.onUnitChanged state).Listed base := by
  have hreplaced :
      { s.putAll s.visible.blanks with sync.unit := some state : Synced }.Listed base :=
    (h.blanks hsole).of_host rfl rfl rfl rfl
  rw [onUnitChanged_eq]
  exact hreplaced.refresh (soleListing_putAll.2 hsole)

theorem dispose (h : s.Listed base) (hsole : s.SoleListing) : s.dispose.Listed base := by
  rw [dispose_eq]
  exact (h.blanks hsole).of_host rfl rfl rfl rfl

theorem remember (h : s.Listed base) (last : Option Selection) :
    { s with sync.last := last : Synced }.Listed base :=
  h.of_host rfl rfl rfl rfl

variable {change : SelectionChange} {unit : CompiledUnit}

theorem faithful_of_mem_sourcePuts {p : Put} (hfaithful : s.Faithful change.editor)
    (hp : p ∈ s.visible.sourcePuts unit change.editor change.line) : s.Faithful p.editor := by
  obtain ⟨-, heditor | hmem⟩ := VisibleSet.of_mem_sourcePuts hp
  · exact heditor ▸ hfaithful
  · exact faithful_of_mem_editors hmem

theorem lineSelected (h : s.Listed base) (hsole : s.SoleListing)
    (hfaithful : s.Faithful change.editor) : (s.lineSelected unit change).Listed base := by
  refine ((h.remember (some (.assembly change.line))).putAll hsole fun p hp => ?_).2
  obtain ⟨-, ⟨heditor, -⟩ | ⟨hsource, -⟩⟩ := VisibleSet.of_mem_assemblyPuts hp
  · rw [heditor]
    exact hfaithful
  · exact faithful_of_mem_editors (VisibleSet.mem_editors_of_mem_sources hsource)

theorem highlightTarget {target : SourceLine} {scroll : Bool} (h : s.Listed base)
    (hsole : s.SoleListing) (hfaithful : s.Faithful e) :
    (s.highlightTarget e target scroll).Listed base := by
  rw [highlightTarget_eq]
  refine (h.putAll hsole fun p hp => ?_).2.revealAll
  rw [(VisibleSet.mem_targetPuts_iff.1 hp).2]
  exact hfaithful

/-- Asking for a document that the host need not open leaves the ledger exact. -/
theorem asked {opener : Opener} {v : VisibleSet} {document : Uri} (h : s.Listed base)
    (hplace : (s.asked opener v document).1.host.place? = s.host.place?) :
    (s.asked opener v document).1.Listed base :=
  h.of_host rfl rfl hplace rfl

theorem selection (h : s.Listed base) (hsole : s.SoleListing) (hfaithful : s.Faithful change.editor)
    (hplace : (s.onSelectionChanged change).host.place? = s.host.place?) :
    (s.onSelectionChanged change).Listed base := by
  have hselects := selects (s := s) Host.openSource change
  rw [← onSelectionChanged_eq] at hselects
  generalize s.onSelectionChanged change = t at hselects hplace
  have hsole' : ∀ unit, (s.lineSelected unit change).SoleListing :=
    fun _ => soleListing_putAll.2 hsole
  cases hselects with
  | ignored _ => exact h
  | source _ _ =>
    have hremembered := h.remember (some (.source change.editor.document change.line))
    rw [selectSource_eq]
    exact (hremembered.putAll hsole fun p hp =>
      faithful_of_mem_sourcePuts hfaithful hp).2.revealAll
  | unmapped _ _ _ => exact h.lineSelected hsole hfaithful
  | mapped _ _ _ he =>
    have hsource := VisibleSet.mem_editors_of_mem_sources
      (VisibleSet.mem_sources_of_sourceFor? he).1
    refine (h.lineSelected hsole hfaithful).highlightTarget (hsole' _) (faithful_of_mem_editors ?_)
    rwa [visible_lineSelected]
  | @refused unit target _ _ _ _ _ =>
    have hselected : (s.lineSelected unit change).host.place? = s.host.place? := place?_putAll
    exact (h.lineSelected hsole hfaithful).asked (hplace.trans hselected.symm)
  | @opened unit target e _ _ _ _ hanswer =>
    have hselected : (s.lineSelected unit change).host.place? = s.host.place? := place?_putAll
    let opened := ((s.lineSelected unit change).asked Host.openSource s.visible target.file).1
    have hrest : (opened.highlightTarget e target true).rest = opened.rest :=
      rest_highlightTarget target true
    have hopened : opened.host.place? = (s.lineSelected unit change).host.place? :=
      (congrArg (·.host.place?) hrest).symm.trans (hplace.trans hselected.symm)
    have hdocs : opened.sync.docs = (s.lineSelected unit change).sync.docs := rfl
    have hsole'' : opened.SoleListing := (soleListing_congr hdocs hopened).2 (hsole' unit)
    exact ((h.lineSelected hsole hfaithful).asked hopened).highlightTarget hsole''
      fun _ => (shows_asked hanswer).1

end Listed

/-- A view that is told of a change has its ledger exact, whatever was in it. -/
theorem listed_onVisibleEditorsChanged (hsole : s.SoleListing) :
    s.onVisibleEditorsChanged.Listed base := by
  have hempty : ({ s with sync.ledger := {} : Synced }.updatePhase s.visible).Listed base :=
    .of_empty rfl
  rw [onVisibleEditorsChanged_eq]
  exact hempty.putVisible hsole fun p hp => mem_editors_of_mem_updates (s := s) hp

end Synced

namespace Scene

variable {s : Scene} {event : Event} {events : List Event}

/-! ### Runs -/

/-- A selection names its editor as the host has it. -/
def Faithful (s : Scene) : Event → Prop
  | .command (.selection change) => s.view.Faithful change.editor
  | _ => True

/-- So does every selection of a run that is made while the view knows of the latest change. -/
def FaithfulAll : Scene → List Event → Prop
  | _, [] => True
  | s, event :: events =>
    (s.news = false → s.Faithful event) ∧ (s.after event).FaithfulAll events

/-- The ledger is exact for the selected lines of the listing unless the view is still to be told of
a change, or two visible editors show the listing. -/
def Listed (s : Scene) : Prop :=
  s.news = false → s.view.SoleListing → s.view.Listed s.base

theorem listed_initial (docs : ViewDocuments) (settings : SyncSettings) (host : Host) :
    (initial docs settings host).Listed :=
  fun _ _ => .of_empty rfl

theorem docs_after (s : Scene) (event : Event) :
    (s.after event).view.sync.docs = s.view.sync.docs :=
  congrArg Prod.fst (given_afterAll s [event])

/-- **Every event leaves the ledger exact.** -/
theorem Listed.after (h : s.Listed) (hfaithful : s.news = false → s.Faithful event) :
    (s.after event).Listed := by
  intro hnews hsole
  by_cases hevent : event = .command .visibleEditorsChanged
  · subst hevent
    -- the view sees what was visible before
    have hplace : (s.after (.command .visibleEditorsChanged)).view.host.place? =
        s.view.host.place? := Synced.place?_onVisibleEditorsChanged
    exact Synced.listed_onVisibleEditorsChanged
      ((Synced.soleListing_congr (s.docs_after _) hplace).1 hsole)
  · obtain ⟨hbefore, hplace⟩ := of_news_eq_false hevent hnews
    have hsole' := (Synced.soleListing_congr (s.docs_after event) hplace).1 hsole
    have hlisted := h hbefore hsole'
    cases event with
    | command command =>
      rw [view_command, base_command]
      cases command with
      | refresh => exact hlisted.refresh hsole'
      | unit state => exact hlisted.onUnitChanged hsole' state
      | selection change => exact hlisted.selection hsole' (hfaithful hbefore) hplace
      | visibleEditorsChanged => exact absurd rfl hevent
      | close => exact hlisted.dispose hsole'
    | host host =>
      exact hlisted.of_host rfl rfl hplace (screen_host_of_place? hplace)

theorem Listed.afterAll (h : s.Listed) (hfaithful : s.FaithfulAll events) :
    (s.afterAll events).Listed := by
  induction events generalizing s with
  | nil => exact h
  | cons event events ih => exact ih (h.after hfaithful.1) hfaithful.2

/-- **The highlighted lines of the listing.**

The scene is any that a run leads to in which selections name their editors as the host has them,
once the view was told of the latest change of the visible editors, is active and has a listing,
which one visible editor shows.  After a line of a source was selected, that editor has as selected
lines exactly those of its lines that came from the selected line, or from the cursor line of a
visible editor of another source, each once, and the former are first, in ascending order. -/
theorem highlight_exact (docs : ViewDocuments) (settings : SyncSettings) (host : Host)
    (events : List Event) (change : SelectionChange) (unit : CompiledUnit) (a : Editor) :
    let start := initial docs settings host
    let s := start.afterAll events
    let document := change.editor.document
    let lines := (s.after (.command (.selection change))).screen a.id .selected
    start.FaithfulAll events → s.news = false →
    s.OneListing → s.view.visible.assembly = some a → s.view.Attends change unit →
    unit.references document = true → s.view.Faithful change.editor →
    (∀ k, k ∈ lines ↔ k ∈ unit.linesFrom a.lineCount document change.line ∨
        ∃ e ∈ s.view.visible.sources, e.document ≠ document ∧
          k ∈ unit.linesFrom a.lineCount e.document e.cursor) ∧
      lines.Nodup ∧
      ∃ own, own <+: lines ∧ own.Pairwise (· < ·) ∧
        ∀ k, k ∈ own ↔ k ∈ unit.linesFrom a.lineCount document change.line := by
  intro start s document lines hfaithful hnews hone ha hattends hsource heditor
  have hlisted : s.view.Listed s.base :=
    (listed_initial docs settings host).afterAll hfaithful hnews hone.sole
  have hremembered := hlisted.remember (some (.source document change.line))
  obtain ⟨hmem, hassembly⟩ := Synced.mem_visibleEditors_of_assembly ha
  have hlines : lines =
      Synced.highlightedLines unit s.view.visible a.lineCount change.editor change.line := by
    change ((s.view.onSelectionChanged change).screen s.base) a.id .selected = _
    rw [hattends.onSelectionChanged_source hsource, Synced.selectSource_eq,
      Synced.screen_revealAll]
    refine ((hremembered.putAll hone.sole fun p hp => ?_).1 a (Host.shows_of_mem hmem)
      hassembly).trans ?_
    · exact Synced.Listed.faithful_of_mem_sourcePuts heditor hp
    · -- the listing comes last
      rw [VisibleSet.sourcePuts, ha, Screen.putAll_cons, Screen.putAll_cons, Screen.putAll_nil,
        Screen.set_self]
  rw [hlines]
  exact ⟨fun _ => Synced.mem_highlightedLines_iff, Synced.nodup_highlightedLines,
    _, Synced.mappedLines_prefix_highlightedLines, Synced.pairwise_mappedLines,
    fun _ => Synced.mem_mappedLines_iff⟩

/-! ### Runs that can be checked -/

instance decidableSyncedFaithful (s : Synced) (e : Editor) : Decidable (s.Faithful e) :=
  inferInstanceAs (Decidable
    (e.document = s.sync.docs.assembly ∨ (s.host.place? e.id).isSome → s.host.Shows e))

instance decidableFaithful (s : Scene) : (event : Event) → Decidable (s.Faithful event)
  | .command (.selection change) => inferInstanceAs (Decidable (s.view.Faithful change.editor))
  | .command .refresh | .command (.unit _) | .command .visibleEditorsChanged | .command .close
  | .host _ => .isTrue trivial

instance decidableFaithfulAll (s : Scene) :
    (events : List Event) → Decidable (s.FaithfulAll events)
  | [] => .isTrue trivial
  | event :: events =>
    have := decidableFaithfulAll (s.after event) events
    inferInstanceAs (Decidable
      ((s.news = false → s.Faithful event) ∧ (s.after event).FaithfulAll events))

theorem compiled?_compiledRun_select (host : Host) (editor : Editor) (line : Nat) :
    ((initial exampleDocs {} host).afterAll
      (compiledRun ++ [select editor line])).view.compiled? = some exampleUnit := by
  have hbefore := compiled?_compiledRun host
  rw [Synced.compiled?_eq_some_iff] at hbefore ⊢
  rw [afterAll_append, afterAll, afterAll, select, view_command, Synced.unit_handle]
  exact hbefore

/-- A line of the source highlights the line of the listing that came from it first, and also the
one that came from the line of the header where the cursor is. -/
theorem source_and_cursor_highlighted :
    let s := (initial exampleDocs {} allShown).afterAll (compiledRun ++ [select headerEditor 1])
    let lines := (s.after (select sourceEditor 1)).screen "listing" .selected
    1 ∈ lines ∧ lines.Nodup ∧ ∃ own, own <+: lines ∧ own.Pairwise (· < ·) ∧ 0 ∈ own := by
  intro s lines
  obtain ⟨hmem, hnodup, own, hprefix, hascending, hown⟩ := highlight_exact exampleDocs {} allShown
    (compiledRun ++ [select headerEditor 1]) ⟨sourceEditor, 1, some .mouse⟩ exampleUnit
    listingEditor (by decide +kernel) (by decide +kernel) (by decide +kernel) (by decide +kernel)
    ⟨rfl, by decide +kernel, compiled?_compiledRun_select allShown headerEditor 1⟩
    (by decide +kernel) (by decide +kernel)
  have hheader : headerEditor ∈ s.view.visible.sources := by decide +kernel
  have hcursor : 1 ∈ exampleUnit.linesFrom 2 exampleHeader 0 := ⟨by decide, _, rfl, rfl, rfl⟩
  have hsource : 0 ∈ exampleUnit.linesFrom 2 exampleSource 1 := ⟨by decide, _, rfl, rfl, rfl⟩
  exact ⟨(hmem 1).2 (.inr ⟨headerEditor, hheader, by decide +kernel, hcursor⟩), hnodup, own,
    hprefix, hascending, (hown 0).2 hsource⟩

/-- The listing in the column of the visible one, hidden. -/
def hiddenListing : Editor :=
  { listingEditor with id := "hidden" }

/-- **A listing line that is not highlighted.**  A line is selected in a hidden editor of the
listing, and then the source line that it came from is selected in the source.  The ledger has that
line of the listing as highlighted in the column of the visible editor, which so stays blank. -/
theorem hidden_listing_hides_highlight :
    let host := { showing [sourceEditor, hiddenListing, listingEditor] with
      visible := ["source", "listing"] }
    let events := compiledRun ++ [select hiddenListing 0]
    let s := (initial exampleDocs {} host).afterAll events
    let change : SelectionChange := ⟨sourceEditor, 1, some .mouse⟩
    s.news = false ∧ s.OneListing ∧
      s.view.visible.assembly = some listingEditor ∧ s.view.Attends change exampleUnit ∧
      exampleUnit.references exampleSource = true ∧ s.view.host.Shows sourceEditor ∧
      0 ∈ exampleUnit.linesFrom listingEditor.lineCount exampleSource 1 ∧
      (s.after (.command (.selection change))).screen "listing" .selected = [] := by
  intro host events s change
  exact ⟨by decide +kernel, by decide +kernel, by decide +kernel,
    ⟨rfl, by decide +kernel, compiled?_compiledRun_select host hiddenListing 0⟩,
    by decide +kernel, by decide +kernel, ⟨by decide, _, rfl, rfl, rfl⟩, by decide +kernel⟩

end Scene

end AsmExplorer
