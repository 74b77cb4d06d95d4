import AsmExplorer.Proofs.Listing.Index
import AsmExplorer.Proofs.View.Reactions
import AsmExplorer.Proofs.View.Screen

/-!
# Tidy screens

A screen is *tidy* (`Synced.Tidy`) if the ledger is honest, and only editors that concern the view
are decorated.  Every reaction of the view keeps it tidy (`Synced.Tidy.handle`), as long as
selections name visible editors and no two visible editors have the same document and column.  A new
unit makes other editors concern the view, but the editors of the old one are cleared first
(`Synced.Tidy.replaced`).  A selection may have the host open an editor, which concerns the view and
has no decorations before (`Synced.Tidy.marking`).

With one editor of the listing at most, clearing leaves nothing at all on a tidy screen
(`Synced.Tidy.cleared`), and the view then draws the same as on a blank screen
(`Synced.Tidy.screen_refresh`).
-/

namespace AsmExplorer

namespace Host

variable {h h' : Host} {e : Editor}

theorem Opens.editor?_self (ho : h.Opens h' e) : h'.editor? e.id = some e := by
  simp [editor?, ho.editors]

theorem Opens.editor?_of_ne (ho : h.Opens h' e) {id : String} (hid : id ≠ e.id) :
    h'.editor? id = h.editor? id := by
  rw [editor?, ho.editors, List.find?_cons_of_neg (by simpa using hid.symm), List.find?_filter]
  refine congrArg (h.editors.find? ·) (funext fun e' => ?_)
  by_cases he' : e'.id = id
  · simp [he', hid]
  · simp [he']

theorem Opens.not_mem_visible (ho : h.Opens h' e) (hd : h'.Distinct) : e.id ∉ h.visible := by
  intro hmem
  have heditors : h'.visibleEditors = h.visible.filterMap h'.editor? ++ [e] := by
    rw [visibleEditors, ho.visible, List.filterMap_append]
    simp [ho.editor?_self]
  rw [Distinct, heditors, List.map_append, List.nodup_append] at hd
  refine hd.2.2 (e.document, e.column) ?_ (e.document, e.column) (by simp) rfl
  exact List.mem_map_of_mem (List.mem_filterMap.2 ⟨e.id, hmem, ho.editor?_self⟩)

theorem Opens.keeps (ho : h.Opens h' e) (hd : h'.Distinct) : h.Keeps h' := by
  intro id
  by_cases hid : id = e.id
  · rw [hid]
    exact .inr (by simp [place?, ho.not_mem_visible hd])
  · refine .inl ?_
    simp [place?, ho.visible, ho.editor?_of_ne hid, hid]

theorem Opens.shows (ho : h.Opens h' e) : h'.Shows e := by
  simp [Shows, place?, ho.visible, ho.editor?_self]

end Host

namespace Synced

variable {base base' : Screen} {s t : Synced} {e : Editor} {puts : List Put}
  {reveals : List (Editor × Nat)}

/-! ### The editors of a view -/

/-- A document concerns a view: it is that of the listing, or a source. -/
def Concerns (s : Synced) (document : Uri) : Prop :=
  document = s.sync.docs.assembly ∨ s.sync.docs.isSource s.sync.unit document = true

theorem mem_sources_iff : e ∈ s.visible.sources ↔ e ∈ s.host.visibleEditors ∧
    e.document ≠ s.sync.docs.assembly ∧ s.sync.docs.isSource s.sync.unit e.document = true := by
  simp [visible, ViewDocuments.classify]

theorem mem_visibleEditors_of_assembly (h : s.visible.assembly = some e) :
    e ∈ s.host.visibleEditors ∧ e.document = s.sync.docs.assembly :=
  ⟨List.mem_of_find?_eq_some h, by simpa using List.find?_some h⟩

theorem of_mem_editors (h : e ∈ s.visible.editors) :
    e ∈ s.host.visibleEditors ∧ s.Concerns e.document := by
  obtain h | h := List.mem_append.1 h
  · obtain ⟨he, -, hsource⟩ := mem_sources_iff.1 h
    exact ⟨he, .inr hsource⟩
  · obtain ⟨he, hdocument⟩ := mem_visibleEditors_of_assembly (Option.mem_toList.1 h)
    exact ⟨he, .inl hdocument⟩

theorem shows_of_mem_editors (h : e ∈ s.visible.editors) : s.host.Shows e :=
  Host.shows_of_mem (of_mem_editors h).1

/-! ### What putting and scrolling leave alone -/

theorem visible_congr (hdocs : t.sync.docs = s.sync.docs) (hunit : t.sync.unit = s.sync.unit)
    (heditors : t.host.visibleEditors = s.host.visibleEditors) : t.visible = s.visible := by
  rw [visible, visible, hdocs, hunit, heditors]

theorem visible_eq_of_rest (h : t.rest = s.rest) : t.visible = s.visible :=
  visible_congr (congrArg (·.sync.docs) h) (congrArg (·.sync.unit) h)
    (congrArg (·.host.visibleEditors) h)

@[simp] theorem visible_putAll : (s.putAll puts).visible = s.visible :=
  visible_eq_of_rest (rest_putAll puts)

@[simp] theorem visible_lineSelected {unit : CompiledUnit} {change : SelectionChange} :
    (s.lineSelected unit change).visible = s.visible :=
  visible_putAll

@[simp] theorem docs_putAll : (s.putAll puts).sync.docs = s.sync.docs :=
  congrArg (·.sync.docs) (rest_putAll puts)

theorem distinct_iff_of_rest (h : t.rest = s.rest) : t.host.Distinct ↔ s.host.Distinct := by
  have heditors : t.host.visibleEditors = s.host.visibleEditors :=
    congrArg (·.host.visibleEditors) h
  rw [Host.Distinct, Host.Distinct, heditors]

theorem distinct_putAll : (s.putAll puts).host.Distinct ↔ s.host.Distinct :=
  distinct_iff_of_rest (rest_putAll puts)

theorem shows_putAll : (s.putAll puts).host.Shows e ↔ s.host.Shows e := by
  rw [Host.Shows, Host.Shows, place?_putAll]

theorem separate_putAll : (s.putAll puts).host.Separate ↔ s.host.Separate :=
  Host.separate_congr place?_putAll

theorem concerns_putAll {document : Uri} :
    (s.putAll puts).Concerns document ↔ s.Concerns document := by
  rw [Concerns, Concerns, docs_putAll, unit_putAll]

@[simp] theorem sync_revealAll : (s.revealAll reveals).sync = s.sync := by
  induction reveals generalizing s with
  | nil => rfl
  | cons r reveals ih => exact ih

@[simp] theorem screen_revealAll : (s.revealAll reveals).screen base = s.screen base := by
  induction reveals generalizing s with
  | nil => rfl
  | cons r reveals ih => exact ih

@[simp] theorem place?_revealAll : (s.revealAll reveals).host.place? = s.host.place? :=
  congrArg (·.host.place?) (rest_revealAll reveals)

/-! ### Tidy screens -/

/-- The ledger is honest, and only editors that concern the view are decorated. -/
structure Tidy (base : Screen) (s : Synced) : Prop extends Honest base s where
  /-- What is decorated concerns the view. -/
  concerns : ∀ id kind place, s.screen base id kind ≠ [] → s.host.place? id = some place →
    s.Concerns place.1

namespace Tidy

/-- A screen stays tidy if decorations disappear, if editors without decorations come and go, and if
the ledger is emptied. -/
theorem of_host (h : s.Tidy base) (hdocs : t.sync.docs = s.sync.docs)
    (hunit : t.sync.unit = s.sync.unit)
    (hledger : t.sync.ledger = s.sync.ledger ∨ t.sync.ledger = {})
    (hscreen : ∀ id kind, t.screen base' id kind = [] ∨
      t.screen base' id kind = s.screen base id kind ∧ t.host.place? id = s.host.place? id) :
    t.Tidy base' := by
  constructor
  · constructor
    · intro e kind lines he hnoted
      obtain hledger | hledger := hledger
      · obtain hnil | ⟨hsame, hplace⟩ := hscreen e.id kind
        · exact .inl hnil
        · have he' : s.host.Shows e := hplace.symm.trans he
          rw [hsame]
          exact h.noted e kind lines he' (hledger ▸ hnoted)
      · rw [hledger] at hnoted
        cases hnoted
    · intro id kind hne
      obtain hnil | ⟨hsame, hplace⟩ := hscreen id kind
      · exact absurd hnil hne
      · rw [hplace]
        exact h.visible id kind (hsame ▸ hne)
  · intro id kind place hne hplace
    obtain hnil | ⟨hsame, hplace'⟩ := hscreen id kind
    · exact absurd hnil hne
    · have hconcerns := h.concerns id kind place (hsame ▸ hne) (hplace' ▸ hplace)
      rwa [Concerns, hdocs, hunit]

theorem revealAll (h : s.Tidy base) : (s.revealAll reveals).Tidy base := by
  refine h.of_host ?_ ?_ (.inl ?_) fun _ _ => .inr ?_
  · rw [sync_revealAll]
  · rw [sync_revealAll]
  · rw [sync_revealAll]
  · rw [screen_revealAll, place?_revealAll]
    exact ⟨rfl, rfl⟩

theorem putAll (h : s.Tidy base) (hd : s.host.Distinct)
    (hputs : ∀ p ∈ puts, s.host.Shows p.editor ∧ s.Concerns p.editor.document) :
    (s.putAll puts).Tidy base := by
  constructor
  · exact h.toHonest.putAll hd fun p hp => (hputs p hp).1
  · intro id kind place hne hplace
    rw [place?_putAll] at hplace
    rw [concerns_putAll]
    obtain hsame | ⟨p, hp, rfl, rfl, -⟩ := screen_putAll_cases base id kind
    · exact h.concerns id kind place (hsame ▸ hne) hplace
    · obtain ⟨hshows, hconcerns⟩ := hputs p hp
      obtain rfl := Option.some.inj (hshows.symm.trans hplace)
      exact hconcerns

theorem putVisible (h : s.Tidy base) (hd : s.host.Distinct)
    (hputs : ∀ p ∈ puts, p.editor ∈ s.visible.editors) : (s.putAll puts).Tidy base :=
  h.putAll hd fun p hp =>
    ⟨shows_of_mem_editors (hputs p hp), (of_mem_editors (hputs p hp)).2⟩

/-! ### The reactions keep screens tidy -/

theorem screen_blanks (h : s.Honest base) (hd : s.host.Distinct) :
    (s.putAll s.visible.blanks).screen base = (s.screen base).putAll s.visible.blanks := by
  refine (h.putAll_spec hd (fun p hp => ?_) fun p hp => ?_).1
  · exact shows_of_mem_editors (VisibleSet.mem_blanks_iff.1 hp).1
  · exact .inl (VisibleSet.mem_blanks_iff.1 hp).2

theorem blanks (h : s.Tidy base) (hd : s.host.Distinct) : (s.putAll s.visible.blanks).Tidy base :=
  h.putVisible hd fun _ hp => (VisibleSet.mem_blanks_iff.1 hp).1

/-- What is decorated after the editors of the view were cleared is another editor of the
listing. -/
theorem of_cleared (h : s.Tidy base) (hd : s.host.Distinct) {id : String} {kind : DecorationKind}
    (hne : (s.putAll s.visible.blanks).screen base id kind ≠ []) :
    ∃ e ∈ s.host.visibleEditors, e.id = id ∧ e.document = s.sync.docs.assembly ∧
      e ∉ s.visible.editors := by
  have ht := h.blanks hd
  obtain ⟨place, hplace⟩ := Option.isSome_iff_exists.1 (ht.visible id kind hne)
  have hconcerns := ht.concerns id kind place hne hplace
  rw [place?_putAll] at hplace
  rw [concerns_putAll] at hconcerns
  obtain ⟨e, he, rfl, rfl⟩ := Host.exists_mem_of_place? hplace
  have hnot : e ∉ s.visible.editors := by
    intro hmem
    rw [screen_blanks h.toHonest hd] at hne
    exact hne (Screen.putAll_blanks hmem)
  refine ⟨e, he, rfl, ?_, hnot⟩
  obtain hassembly | hsource := hconcerns
  · exact hassembly
  · by_contra hassembly
    exact hnot (VisibleSet.mem_editors_of_mem_sources (mem_sources_iff.2 ⟨he, hassembly, hsource⟩))

theorem refresh (h : s.Tidy base) (hd : s.host.Distinct) : s.refresh.Tidy base := by
  have hphase : (s.updatePhase s.visible).Tidy base :=
    h.of_host rfl rfl (.inl rfl) fun _ _ => .inr ⟨rfl, rfl⟩
  rw [refresh_eq]
  refine (hphase.blanks hd).putVisible (distinct_putAll.2 hd) fun p hp => ?_
  rw [visible_putAll]
  split at hp
  · exact VisibleSet.mem_editors_of_mem_decorations hp
  · cases hp

/-- The sources of the outgoing unit are cleared before the new one comes, so the new one may
concern other editors. -/
theorem replaced (h : s.Tidy base) (hd : s.host.Distinct) (state : UnitState) :
    { s.putAll s.visible.blanks with sync.unit := some state : Synced }.Tidy base := by
  have hcleared := h.blanks hd
  refine ⟨⟨hcleared.noted, hcleared.visible⟩, fun id kind place hne hplace => ?_⟩
  obtain ⟨e, he, rfl, hassembly, -⟩ := h.of_cleared hd hne
  have hshows : (s.putAll s.visible.blanks).host.Shows e :=
    shows_putAll.2 (Host.shows_of_mem he)
  obtain rfl := Option.some.inj (hshows.symm.trans hplace)
  exact .inl (hassembly.trans (docs_putAll ▸ rfl))

theorem onUnitChanged (h : s.Tidy base) (hd : s.host.Distinct) (state : UnitState) :
    (s.onUnitChanged state).Tidy base := by
  rw [onUnitChanged_eq]
  exact (h.replaced hd state).refresh (distinct_putAll.2 hd)

theorem onVisibleEditorsChanged (h : s.Tidy base) (hd : s.host.Distinct) :
    s.onVisibleEditorsChanged.Tidy base := by
  have hphase : ({ s with sync.ledger := {} : Synced }.updatePhase s.visible).Tidy base :=
    h.of_host rfl rfl (.inr rfl) fun _ _ => .inr ⟨rfl, rfl⟩
  rw [onVisibleEditorsChanged_eq]
  exact hphase.putVisible hd fun p hp => mem_editors_of_mem_updates (s := s) hp

theorem dispose (h : s.Tidy base) (hd : s.host.Distinct) : s.dispose.Tidy base := by
  rw [dispose_eq]
  exact (h.blanks hd).of_host rfl rfl (.inl rfl) fun _ _ => .inr ⟨rfl, rfl⟩

end Tidy

/-! ### Drawing on a screen that was cleared -/

/-- At most one visible editor shows the listing. -/
def OneListing (s : Synced) : Prop :=
  s.host.visibleEditors.countP (·.document == s.sync.docs.assembly) ≤ 1

/-- What the view would show on a blank screen. -/
def freshScreen (s : Synced) : Screen :=
  if s.visible.isActive then
    Screen.blank.putAll (s.visible.decorations s.sync.settings s.sync.last s.sync.unit)
  else .blank

theorem freshScreen_eq_of_rest (h : t.rest = s.rest) : t.freshScreen = s.freshScreen := by
  have hsettings : t.sync.settings = s.sync.settings := congrArg (·.sync.settings) h
  have hlast : t.sync.last = s.sync.last := congrArg (·.sync.last) h
  have hunit : t.sync.unit = s.sync.unit := congrArg (·.sync.unit) h
  rw [freshScreen, freshScreen, visible_eq_of_rest h, hsettings, hlast, hunit]

theorem freshScreen_replaced {state : UnitState} :
    ({ s.putAll puts with sync.unit := some state } : Synced).freshScreen =
      ({ s with sync.unit := some state } : Synced).freshScreen := by
  refine freshScreen_eq_of_rest ?_
  exact congrArg (fun r : Synced => ({ r with sync.unit := some state } : Synced)) (rest_putAll _)

theorem OneListing.assembly_eq (hone : s.OneListing) (he : e ∈ s.host.visibleEditors)
    (hdocument : e.document = s.sync.docs.assembly) : s.visible.assembly = some e := by
  rw [OneListing, List.countP_eq_length_filter] at hone
  have hmem : ∀ e' ∈ s.host.visibleEditors, e'.document = s.sync.docs.assembly →
      e' ∈ s.host.visibleEditors.filter (·.document == s.sync.docs.assembly) :=
    fun e' he' hdocument' => List.mem_filter.2 ⟨he', by simpa using hdocument'⟩
  cases hfound : s.visible.assembly with
  | none =>
    have hnone := List.find?_eq_none.1 hfound e he
    simp [hdocument] at hnone
  | some e' =>
    obtain ⟨he', hdocument'⟩ := mem_visibleEditors_of_assembly hfound
    have hfirst := hmem e he hdocument
    have hsecond := hmem e' he' hdocument'
    match hlist : s.host.visibleEditors.filter (·.document == s.sync.docs.assembly) with
    | [] => simp [hlist] at hfirst
    | [only] =>
      rw [hlist, List.mem_singleton] at hfirst hsecond
      rw [hfirst, hsecond]
    | _ :: _ :: _ => simp [hlist] at hone

/-- Of the names of visible editors at most one is that of an editor of the listing. -/
def SoleListing (s : Synced) : Prop :=
  ∀ id id' p p', s.host.place? id = some p → s.host.place? id' = some p' →
    p.1 = s.sync.docs.assembly → p'.1 = s.sync.docs.assembly → id = id'

theorem OneListing.sole (hone : s.OneListing) : s.SoleListing := by
  intro id id' p p' hplace hplace' hlisting hlisting'
  obtain ⟨e, he, rfl, rfl⟩ := Host.exists_mem_of_place? hplace
  obtain ⟨e', he', rfl, rfl⟩ := Host.exists_mem_of_place? hplace'
  have hsame := (hone.assembly_eq he hlisting).symm.trans (hone.assembly_eq he' hlisting')
  rw [Option.some.inj hsame]

theorem soleListing_congr (hdocs : t.sync.docs = s.sync.docs)
    (hplace : t.host.place? = s.host.place?) : t.SoleListing ↔ s.SoleListing := by
  rw [SoleListing, SoleListing, hdocs, hplace]

theorem oneListing_putAll : (s.putAll puts).OneListing ↔ s.OneListing := by
  rw [OneListing, OneListing, visibleEditors_putAll, docs_putAll]

theorem oneListing_onUnitChanged {state : UnitState} :
    (s.onUnitChanged state).OneListing ↔ s.OneListing := by
  rw [onUnitChanged_eq, refresh_eq, oneListing_putAll, oneListing_putAll]
  exact oneListing_putAll

namespace Tidy

/-- **Clearing leaves nothing.** -/
theorem cleared (h : s.Tidy base) (hd : s.host.Distinct) (hone : s.OneListing) :
    (s.putAll s.visible.blanks).screen base = .blank := by
  funext id kind
  by_contra hne
  obtain ⟨e, he, -, hdocument, hnot⟩ := h.of_cleared hd hne
  exact hnot (VisibleSet.mem_editors_of_assembly (hone.assembly_eq he hdocument))

theorem exact_cleared (h : s.Tidy base) (hd : s.host.Distinct) (he : e ∈ s.visible.editors)
    (kind : DecorationKind) : (s.putAll s.visible.blanks).Exact base e kind := by
  refine (h.putAll_spec hd (fun p hp => ?_) fun p hp => ?_).2 e kind (shows_of_mem_editors he)
    (.inr ⟨⟨e, kind, []⟩, VisibleSet.mem_blanks_iff.2 ⟨he, rfl⟩, rfl, rfl⟩)
  · exact shows_of_mem_editors (VisibleSet.mem_blanks_iff.1 hp).1
  · exact .inl (VisibleSet.mem_blanks_iff.1 hp).2

/-- **A view that refreshes shows what it would show on a blank screen.** -/
theorem screen_refresh (h : s.Tidy base) (hd : s.host.Distinct) (hone : s.OneListing) :
    s.refresh.screen base = s.freshScreen := by
  have hphase : (s.updatePhase s.visible).Tidy base :=
    h.of_host rfl rfl (.inl rfl) fun _ _ => .inr ⟨rfl, rfl⟩
  have hcleared := hphase.cleared hd hone
  rw [refresh_eq, freshScreen]
  split
  · have hmem : ∀ p ∈ s.visible.decorations s.sync.settings s.sync.last s.sync.unit,
        p.editor ∈ s.visible.editors := fun p hp => VisibleSet.mem_editors_of_mem_decorations hp
    have hspec := (hphase.blanks hd).putAll_spec (distinct_putAll.2 hd)
      (fun p hp => shows_putAll.2 (shows_of_mem_editors (hmem p hp)))
      (fun p hp => .inr (hphase.exact_cleared hd (hmem p hp) p.kind))
    rw [← hcleared]
    exact hspec.1
  · exact hcleared

theorem screen_onUnitChanged (h : s.Tidy base) (hd : s.host.Distinct) (hone : s.OneListing)
    (state : UnitState) : (s.onUnitChanged state).screen base =
      ({ s with sync.unit := some state } : Synced).freshScreen := by
  rw [onUnitChanged_eq, (h.replaced hd state).screen_refresh (distinct_putAll.2 hd)
    (oneListing_putAll.2 hone), freshScreen_replaced]

theorem exists_of_ne (h : s.Tidy base) (hone : s.OneListing) {id : String} {kind : DecorationKind}
    (hne : s.screen base id kind ≠ []) : ∃ e ∈ s.visible.editors, e.id = id := by
  obtain ⟨place, hplace⟩ := Option.isSome_iff_exists.1 (h.visible id kind hne)
  have hconcerns := h.concerns id kind place hne hplace
  obtain ⟨e, he, rfl, rfl⟩ := Host.exists_mem_of_place? hplace
  refine ⟨e, ?_, rfl⟩
  by_cases hassembly : e.document = s.sync.docs.assembly
  · exact VisibleSet.mem_editors_of_assembly (hone.assembly_eq he hassembly)
  · exact VisibleSet.mem_editors_of_mem_sources
      (mem_sources_iff.2 ⟨he, hassembly, hconcerns.resolve_left hassembly⟩)

end Tidy

/-! ### Selections keep screens tidy -/

variable {change : SelectionChange} {unit : CompiledUnit} {document : Uri} {v : VisibleSet}

theorem Attends.isSource_iff (h : s.Attends change unit) :
    s.sync.docs.isSource s.sync.unit document = true ↔ unit.references document = true := by
  have hunit : s.sync.unit.bind UnitState.unit? = some unit := h.compiled
  simp [ViewDocuments.isSource, hunit]

/-- Selected lines are put on visible editors that concern the view. -/
def SelectedOn (s : Synced) (puts : List Put) : Prop :=
  ∀ p ∈ puts, p.kind = .selected ∧ s.host.Shows p.editor ∧ s.Concerns p.editor.document

/-- What comes of a selection in a visible editor: nothing, or else the view, which is active and
has a listing, notes it and puts selected lines on its editors, and may ask for a document before it
puts more of them. -/
inductive Marking (s : Synced) : Synced → Prop
  /-- Nothing. -/
  | ignored : Marking s s
  /-- Selected lines are put on editors. -/
  | marked {last : Option Selection} {puts : List Put} {reveals : List (Editor × Nat)}
      (hactive : s.sync.phase = .active) (hcompiled : s.compiled?.isSome)
      (hputs : s.SelectedOn puts) :
      Marking s (({ s with sync.last := last }.putAll puts).revealAll reveals)
  /-- A document is asked for after selected lines were put on editors. -/
  | asked {last : Option Selection} {puts more : List Put} {document : Uri}
      {reveals : List (Editor × Nat)} (hactive : s.sync.phase = .active)
      (hcompiled : s.compiled?.isSome) (hputs : s.SelectedOn puts)
      (hmore : (({ s with sync.last := last }.putAll puts).asked Host.openSource s.visible
        document).1.SelectedOn more) :
      Marking s ((({ s with sync.last := last }.putAll puts).asked Host.openSource s.visible
        document).1.putAll more |>.revealAll reveals)

theorem Attends.selectedOn_sourcePuts (h : s.Attends change unit)
    (hshows : s.host.Shows change.editor)
    (hsource : unit.references change.editor.document = true) :
    s.SelectedOn (s.visible.sourcePuts unit change.editor change.line) := by
  intro p hp
  obtain ⟨hkind, heditor | hmem⟩ := VisibleSet.of_mem_sourcePuts hp
  · rw [heditor]
    exact ⟨hkind, hshows, .inr (h.isSource_iff.2 hsource)⟩
  · exact ⟨hkind, shows_of_mem_editors hmem, (of_mem_editors hmem).2⟩

theorem selectedOn_assemblyPuts (hshows : s.host.Shows change.editor)
    (hassembly : change.editor.document = s.sync.docs.assembly) :
    s.SelectedOn (s.visible.assemblyPuts unit change.editor change.line) := by
  intro p hp
  obtain ⟨hkind, ⟨heditor, -⟩ | ⟨hsource, -⟩⟩ := VisibleSet.of_mem_assemblyPuts hp
  · rw [heditor]
    exact ⟨hkind, hshows, .inl hassembly⟩
  · have hmem := VisibleSet.mem_editors_of_mem_sources hsource
    exact ⟨hkind, shows_of_mem_editors hmem, (of_mem_editors hmem).2⟩

theorem selectedOn_targetPuts {target : SourceLine} (hshows : s.host.Shows e)
    (hconcerns : s.Concerns e.document) : s.SelectedOn (VisibleSet.targetPuts e target) := by
  intro p hp
  obtain ⟨-, rfl⟩ := VisibleSet.mem_targetPuts_iff.1 hp
  exact ⟨rfl, hshows, hconcerns⟩

/-- The editor that the host gives when it is asked for a document shows it. -/
theorem shows_asked (hanswer : (s.asked Host.openSource v document).2 = some e) :
    (s.asked Host.openSource v document).1.host.Shows e ∧ e.document = document := by
  obtain ⟨heditors, hvisible, hfound⟩ | ⟨e', he', hdocument, hopens⟩ :=
    s.host.showDocument_spec document (some (columnForSources v)) true
  · obtain ⟨he, hdocument⟩ := hfound e hanswer
    refine ⟨?_, hdocument⟩
    have hshows : s.host.Shows e := Host.shows_of_mem he
    simpa only [asked, Host.openSource, Host.Shows, Host.place?, Host.editor?, heditors, hvisible]
      using hshows
  · obtain rfl := Option.some.inj (he'.symm.trans hanswer)
    exact ⟨hopens.shows, hdocument⟩

/-- Asking for a document leaves the visible editors in their places. -/
theorem keeps_asked (hd : (s.asked Host.openSource v document).1.host.Distinct) :
    s.host.Keeps (s.asked Host.openSource v document).1.host := by
  obtain ⟨heditors, hvisible, -⟩ | ⟨e, -, -, hopens⟩ :=
    s.host.showDocument_spec document (some (columnForSources v)) true
  · refine .of_eq (funext fun id => ?_)
    simp only [asked, Host.openSource, Host.place?, Host.editor?, heditors, hvisible]
  · exact hopens.keeps hd

theorem Marking.keeps (h : s.Marking t) (hd' : t.host.Distinct) : s.host.Keeps t.host := by
  cases h with
  | ignored => exact .of_eq rfl
  | marked _ _ _ => exact .of_eq (by rw [place?_revealAll, place?_putAll])
  | asked _ _ _ _ =>
    have hasked := distinct_putAll.1 ((distinct_iff_of_rest (rest_revealAll _)).1 hd')
    intro id
    rw [place?_revealAll, place?_putAll]
    simpa using keeps_asked hasked id

theorem marking (hshows : s.host.Shows change.editor) :
    s.Marking (s.onSelectionChanged change) := by
  have hselects := selects (s := s) Host.openSource change
  rw [← onSelectionChanged_eq] at hselects
  have hcompiled : ∀ {unit}, s.Attends change unit → s.compiled?.isSome :=
    fun h => Option.isSome_iff_exists.2 ⟨_, h.compiled⟩
  generalize s.onSelectionChanged change = t at hselects
  cases hselects with
  | ignored _ => exact .ignored
  | source h hsource =>
    rw [selectSource_eq]
    exact .marked h.active (hcompiled h) (h.selectedOn_sourcePuts hshows hsource)
  | @unmapped unit h hassembly _ =>
    have hmarked : s.Marking ((s.lineSelected unit change).revealAll []) :=
      .marked h.active (hcompiled h) (selectedOn_assemblyPuts hshows hassembly)
    exact hmarked
  | @mapped unit target e h hassembly _ he =>
    have hmem := VisibleSet.mem_editors_of_mem_sources (VisibleSet.mem_sources_of_sourceFor? he).1
    rw [highlightTarget_eq, lineSelected, ← putAll_append]
    refine .marked h.active (hcompiled h) fun p hp => ?_
    exact (List.mem_append.1 hp).elim (selectedOn_assemblyPuts hshows hassembly p)
      (selectedOn_targetPuts (shows_of_mem_editors hmem) (of_mem_editors hmem).2 p)
  | @refused unit target h hassembly _ _ _ =>
    have hasked : s.Marking ((((s.lineSelected unit change).asked Host.openSource s.visible
        target.file).1.putAll []).revealAll []) :=
      .asked h.active (hcompiled h) (selectedOn_assemblyPuts hshows hassembly)
        (by simp [SelectedOn])
    exact hasked
  | @opened unit target e h hassembly hline hnone hanswer =>
    rw [highlightTarget_eq]
    refine .asked h.active (hcompiled h) (selectedOn_assemblyPuts hshows hassembly) ?_
    obtain ⟨hshows', hdocument⟩ := shows_asked hanswer
    refine selectedOn_targetPuts hshows' (.inr ?_)
    rw [hdocument, ← h.isSource_iff.2 (CompiledUnit.references_of_definitionAt? hline)]
    exact congrArg₂ (ViewDocuments.isSource · · target.file) (docs_putAll ..) (unit_putAll _)

/-- Asking for a document leaves the decorated editors in their places. -/
theorem Honest.screen_asked (h : s.Honest base)
    (hd : (s.asked Host.openSource v document).1.host.Distinct) (id : String)
    (kind : DecorationKind) :
    (s.asked Host.openSource v document).1.screen base id kind = [] ∨
      (s.asked Host.openSource v document).1.screen base id kind = s.screen base id kind ∧
        (s.asked Host.openSource v document).1.host.place? id = s.host.place? id := by
  have hscreen : (s.asked Host.openSource v document).1.screen base = s.screen base := rfl
  rw [hscreen]
  obtain hplace | hplace := keeps_asked hd id
  · exact .inr ⟨rfl, hplace⟩
  · -- an editor that was not visible has no decorations
    refine .inl ?_
    by_contra hne
    simpa [hplace] using h.visible id kind hne

theorem Tidy.asked (h : s.Tidy base) (hd : (s.asked Host.openSource v document).1.host.Distinct) :
    (s.asked Host.openSource v document).1.Tidy base :=
  h.of_host rfl rfl (.inl rfl) (h.screen_asked hd)

theorem Tidy.remember (h : s.Tidy base) (last : Option Selection) :
    { s with sync.last := last : Synced }.Tidy base :=
  h.of_host rfl rfl (.inl rfl) fun _ _ => .inr ⟨rfl, rfl⟩

theorem Tidy.marking (h : s.Tidy base) (hd : s.host.Distinct) (hmarking : s.Marking t)
    (hd' : t.host.Distinct) : t.Tidy base := by
  have hputs : ∀ {last puts}, s.SelectedOn puts →
      ({ s with sync.last := last : Synced }.putAll puts).Tidy base := fun hputs =>
    (h.remember _).putAll hd fun p hp => (hputs p hp).2
  cases hmarking with
  | ignored => exact h
  | marked _ _ hon => exact (hputs hon).revealAll
  | asked _ _ hon hmore =>
    have hd'' := distinct_putAll.1 ((distinct_iff_of_rest (rest_revealAll _)).1 hd')
    refine (((hputs hon).asked hd'').putAll hd'' fun p hp => (hmore p hp).2).revealAll

theorem Tidy.handle (h : s.Tidy base) (hd : s.host.Distinct) (command : ViewCommand)
    (hshows : ∀ change, command = .selection change → s.host.Shows change.editor)
    (hd' : (s.handle command).host.Distinct) : (s.handle command).Tidy base := by
  cases command with
  | refresh => exact h.refresh hd
  | unit state => exact h.onUnitChanged hd state
  | selection change => exact h.marking hd (Synced.marking (hshows change rfl)) hd'
  | visibleEditorsChanged => exact h.onVisibleEditorsChanged hd
  | close => exact h.dispose hd

end Synced

end AsmExplorer
