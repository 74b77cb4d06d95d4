import AsmExplorer.Proofs.View.Scene

/-!
# Which marks are on the screen

The kinds of decorations go by different rules.  The sign of loading and the unused lines are put in
place again whenever the view is told of a change of the visible editors; the selected lines only
when the view becomes active.

* `Synced.Sound` : in every state, an inactive view shows nothing, and an active one only marks that
  its unit warrants (`Synced.Warrants`).
* `Synced.Told` : once the view was told of the latest change, the sign of loading and the unused
  lines are those of a fresh view on the host as it was seen, and the ledger is exact on every
  visible editor.

Both are kept by every event (`Scene.Sound.after`), as long as no two visible editors stand in the
same place and at most one shows the listing.  Unless a document has grown or shrunk since, the
marks are those of a fresh view on the present host (`Synced.Told.marks_eq`).
-/

namespace AsmExplorer

namespace VisibleSet

variable {v : VisibleSet} {settings : SyncSettings} {state : Option UnitState} {p : Put}

/-- The selected lines of a view that becomes active. -/
def selections (v : VisibleSet) (last : Option Selection) : Option UnitState → List Put
  | some (.compiled unit) => if unit.lines.isEmpty then [] else v.replayPuts unit last
  | none | some (.failed _) => []

theorem decorations_eq {last : Option Selection} : v.decorations settings last state =
    v.renewals settings state ++ v.selections last state := by
  cases state with
  | none => exact (List.append_nil _).symm
  | some state =>
    cases state with
    | failed _ => rfl
    | compiled unit => rfl

theorem mem_renewals_iff : p ∈ v.renewals settings state ↔
    (state = none ∧ ∃ e, v.assembly = some e ∧ p = ⟨e, .loading, [0]⟩) ∨
      ∃ unit, state = some (.compiled unit) ∧ settings.dimUnusedSourceLines = true ∧
        ∃ e ∈ v.sources, p = ⟨e, .unused, unit.index.unusedLines e.document e.lineCount⟩ := by
  cases state with
  | none => simp [renewals, loadingPuts, @eq_comm _ p]
  | some state =>
    cases state with
    | failed _ => simp [renewals]
    | compiled unit => by_cases hdim : settings.dimUnusedSourceLines = true <;>
        simp [renewals, dimPuts, hdim, @eq_comm _ p]

theorem kind_of_mem_renewals (h : p ∈ v.renewals settings state) : p.kind ≠ .selected := by
  obtain ⟨-, _, -, rfl⟩ | ⟨_, -, -, _, -, rfl⟩ := mem_renewals_iff.1 h <;> simp

theorem kind_of_mem_selections {last : Option Selection} (h : p ∈ v.selections last state) :
    p.kind = .selected := by
  unfold selections at h
  split at h
  · split at h
    · cases h
    · exact (of_mem_replayPuts h).1
  · cases h
  · cases h

end VisibleSet

/-- What is put in place of something does not depend on it. -/
theorem Screen.putAll_congr {screen screen' : Screen} {puts : List Put} {id : String}
    {kind : DecorationKind}
    (h : screen id kind = screen' id kind ∨ ∃ p ∈ puts, p.kind = kind ∧ p.editor.id = id) :
    screen.putAll puts id kind = screen'.putAll puts id kind := by
  induction puts generalizing screen screen' with
  | nil => simpa using h
  | cons p puts ih =>
    rw [putAll_cons, putAll_cons]
    refine ih ?_
    by_cases hp : id = p.editor.id ∧ kind = p.kind
    · obtain ⟨rfl, rfl⟩ := hp
      exact .inl (by rw [set_self, set_self])
    · rw [set_of_ne hp, set_of_ne hp]
      refine h.imp_right ?_
      rintro ⟨q, hq, hkind, hid⟩
      obtain rfl | hq := List.mem_cons.1 hq
      · exact absurd ⟨hid.symm, hkind.symm⟩ hp
      · exact ⟨q, hq, hkind, hid⟩

namespace Synced

variable {base base' : Screen} {s t : Synced} {e : Editor} {puts : List Put}
  {reveals : List (Editor × Nat)} {id : String} {kind : DecorationKind}

/-- What a fresh view would show on a blank screen, apart from selected lines. -/
def freshMarks (s : Synced) : Screen :=
  Screen.blank.putAll (s.visible.renewals s.sync.settings s.sync.unit)

theorem freshScreen_eq_freshMarks (hactive : s.visible.isActive = true) (hkind : kind ≠ .selected) :
    s.freshScreen id kind = s.freshMarks id kind := by
  rw [freshScreen, if_pos hactive, VisibleSet.decorations_eq, Screen.putAll_append]
  exact Screen.putAll_of_forall_ne fun p hp hsame =>
    absurd (hsame.symm.trans (VisibleSet.kind_of_mem_selections hp)) hkind

/-! ### Hosts with the same places -/

theorem isActive_iff : s.visible.isActive = true ↔
    (∃ e ∈ s.host.visibleEditors, e.document = s.sync.docs.assembly) ∧
      ∃ e ∈ s.host.visibleEditors, e.document ≠ s.sync.docs.assembly ∧
        s.sync.docs.isSource s.sync.unit e.document = true := by
  simp [VisibleSet.isActive, visible, ViewDocuments.classify, List.find?_isSome,
    List.filter_eq_nil_iff]

theorem isActive_eq (hdocs : t.sync.docs = s.sync.docs) (hunit : t.sync.unit = s.sync.unit)
    (hplace : t.host.place? = s.host.place?) : t.visible.isActive = s.visible.isActive := by
  rw [Bool.eq_iff_iff, isActive_iff, isActive_iff, hdocs, hunit,
    Host.exists_visible_iff_of_place?_eq hplace (· = s.sync.docs.assembly),
    Host.exists_visible_iff_of_place?_eq hplace fun document =>
      document ≠ s.sync.docs.assembly ∧ s.sync.docs.isSource s.sync.unit document = true]

/-- With the same places and lengths, a mark of one view is one of the other. -/
theorem exists_renewal (hdocs : t.sync.docs = s.sync.docs)
    (hunit : t.sync.unit = s.sync.unit) (hsettings : t.sync.settings = s.sync.settings)
    (hplace : t.host.place? = s.host.place?) (hsole : s.SoleListing)
    (hlengths : s.host.SameLengths t.host)
    (hp : p ∈ s.visible.renewals s.sync.settings s.sync.unit) :
    ∃ q ∈ t.visible.renewals t.sync.settings t.sync.unit,
      q.editor.id = p.editor.id ∧ q.kind = p.kind ∧ q.lines = p.lines := by
  rw [hsettings, hunit]
  obtain ⟨hnone, e, he, rfl⟩ | ⟨unit, hcompiled, hdim, e, he, rfl⟩ :=
    VisibleSet.mem_renewals_iff.1 hp
  · obtain ⟨hmem, hassembly⟩ := mem_visibleEditors_of_assembly he
    obtain ⟨e', he', hid, hdocument, -⟩ := Host.exists_mem_of_place?_eq hplace hmem
    have hsome : t.visible.assembly.isSome := by
      refine List.find?_isSome.2 ⟨e', he', ?_⟩
      simp [hdocument, hassembly, hdocs]
    obtain ⟨a, ha⟩ := Option.isSome_iff_exists.1 hsome
    obtain ⟨hamem, hadocument⟩ := mem_visibleEditors_of_assembly ha
    have hsole' : t.SoleListing := (soleListing_congr hdocs hplace).2 hsole
    have haid : a.id = e'.id := hsole' _ _ _ _ (Host.shows_of_mem hamem) (Host.shows_of_mem he')
      hadocument (by rw [hdocument, hassembly, hdocs])
    exact ⟨⟨a, .loading, [0]⟩, VisibleSet.mem_renewals_iff.2 (.inl ⟨hnone, a, ha, rfl⟩),
      haid.trans hid, rfl, rfl⟩
  · obtain ⟨hmem, hne, hsource⟩ := mem_sources_iff.1 he
    obtain ⟨e', he', hid, hdocument, -⟩ := Host.exists_mem_of_place?_eq hplace hmem
    have hsource' : e' ∈ t.visible.sources := by
      rw [mem_sources_iff, hdocument, hdocs, hunit]
      exact ⟨he', hne, hsource⟩
    refine ⟨_, VisibleSet.mem_renewals_iff.2 (.inr ⟨unit, hcompiled, hdim, e', hsource', rfl⟩),
      hid, rfl, ?_⟩
    rw [hdocument, hlengths e hmem e' he' hid]

theorem freshMarks_of_mem (hp : p ∈ s.visible.renewals s.sync.settings s.sync.unit) :
    s.freshMarks p.editor.id p.kind = p.lines := by
  refine Screen.putAll_of_forall_eq (fun q hq hkind hid => ?_) (.inr ⟨p, hp, rfl, rfl⟩)
  -- marks of one kind on one editor are put by one rule
  obtain ⟨hnone, e, he, rfl⟩ | ⟨unit, hcompiled, -, e, he, rfl⟩ := VisibleSet.mem_renewals_iff.1 hp
  · obtain ⟨-, _, -, rfl⟩ | ⟨_, -, -, _, -, rfl⟩ := VisibleSet.mem_renewals_iff.1 hq
    · rfl
    · cases hkind
  · obtain ⟨-, _, -, rfl⟩ | ⟨unit', hcompiled', -, e', he', rfl⟩ := VisibleSet.mem_renewals_iff.1 hq
    · cases hkind
    · obtain rfl : unit' = unit := by simpa [hcompiled'] using hcompiled
      rw [Host.eq_of_id_eq (mem_sources_iff.1 he').1 (mem_sources_iff.1 he).1 hid]

/-- With the same places and lengths, fresh views show the same marks. -/
theorem freshMarks_eq (hdocs : t.sync.docs = s.sync.docs) (hunit : t.sync.unit = s.sync.unit)
    (hsettings : t.sync.settings = s.sync.settings) (hplace : t.host.place? = s.host.place?)
    (hsole : s.SoleListing) (hlengths : s.host.SameLengths t.host) :
    t.freshMarks = s.freshMarks := by
  funext id kind
  by_cases hmark : ∃ p ∈ s.visible.renewals s.sync.settings s.sync.unit,
      p.kind = kind ∧ p.editor.id = id
  · obtain ⟨p, hp, rfl, rfl⟩ := hmark
    obtain ⟨q, hq, hid, hkind, hlines⟩ :=
      exists_renewal hdocs hunit hsettings hplace hsole hlengths hp
    rw [freshMarks_of_mem hp, ← hlines, ← freshMarks_of_mem hq, hid, hkind]
  · have hsole' : t.SoleListing := (soleListing_congr hdocs hplace).2 hsole
    rw [freshMarks, freshMarks, Screen.putAll_of_forall_ne, Screen.putAll_of_forall_ne]
    · exact fun p hp hkind hid => hmark ⟨p, hp, hkind, hid⟩
    · rintro q hq rfl rfl
      obtain ⟨p, hp, hid, hkind, -⟩ := exists_renewal hdocs.symm hunit.symm hsettings.symm
        hplace.symm hsole' hlengths.symm hq
      exact hmark ⟨p, hp, hkind, hid⟩

/-! ### Sound screens -/

/-- A view may have marks of a kind on a document. -/
def Warrants (s : Synced) (document : Uri) : DecorationKind → Prop
  | .loading => s.sync.unit = none ∧ document = s.sync.docs.assembly
  | .unused => s.sync.settings.dimUnusedSourceLines = true ∧ s.compiled?.isSome ∧
    document ≠ s.sync.docs.assembly
  | .selected => s.compiled?.isSome

/-- An inactive view shows nothing, and an active one only what it may. -/
structure Sound (base : Screen) (s : Synced) : Prop where
  /-- The screen is tidy. -/
  tidy : s.Tidy base
  /-- An inactive view shows nothing. -/
  inactive : s.sync.phase = .inactive → s.screen base = .blank
  /-- The view shows only what it may. -/
  warranted : ∀ id kind place, s.screen base id kind ≠ [] → s.host.place? id = some place →
    s.Warrants place.1 kind

/-- The ledger is exact on every visible editor. -/
def Exactly (base : Screen) (s : Synced) : Prop :=
  ∀ e kind, s.host.Shows e → s.Exact base e kind

/-- The view on another host. -/
def seeing (s : Synced) (h : Host) : Synced :=
  { s with host := h }

/-- What holds of a view that was told of the latest change of the visible editors, and put its
marks in place on a host that it has seen. -/
structure Told (base : Screen) (seen : Host) (s : Synced) : Prop where
  /-- The ledger is exact. -/
  exact : s.Exactly base
  /-- If the view is active then it has reason to be. -/
  active : s.sync.phase = .active → s.visible.isActive = true
  /-- The visible editors stand where they were seen. -/
  places : seen.place? = s.host.place?
  /-- Apart from the selected lines, an active view shows what a fresh one would have shown. -/
  fresh : s.sync.phase = .active → ∀ id kind, kind ≠ .selected →
    s.screen base id kind = (s.seeing seen).freshMarks id kind

/-! ### What soundness rests on -/

theorem warrants_congr {document : Uri} (hdocs : t.sync.docs = s.sync.docs)
    (hunit : t.sync.unit = s.sync.unit) (hsettings : t.sync.settings = s.sync.settings) :
    t.Warrants document kind ↔ s.Warrants document kind := by
  cases kind <;> simp only [Warrants, compiled?, hdocs, hunit, hsettings]

theorem warrants_of_mem_decorations {p : Put} {last : Option Selection}
    (hp : p ∈ s.visible.decorations s.sync.settings last s.sync.unit) :
    s.Warrants p.editor.document p.kind := by
  obtain ⟨hunit, hassembly, hkind, -⟩ | ⟨unit, hunit, hput⟩ := VisibleSet.of_mem_decorations hp
  · rw [hkind]
    exact ⟨hunit, (mem_visibleEditors_of_assembly hassembly).2⟩
  · have hcompiled : s.compiled?.isSome := by simp [compiled?, hunit, UnitState.unit?]
    obtain ⟨hdim, hsource, hkind, -⟩ | ⟨-, -, hkind⟩ := hput
    · rw [hkind]
      exact ⟨hdim, hcompiled, (mem_sources_iff.1 hsource).2.1⟩
    · rw [hkind]
      exact hcompiled

theorem compiled?_eq_some_iff {unit : CompiledUnit} :
    s.compiled? = some unit ↔ s.sync.unit = some (.compiled unit) := by
  unfold compiled?
  cases s.sync.unit with
  | none => simp
  | some state => cases state <;> simp [UnitState.unit?]

namespace Sound

theorem of_blank (h : s.Tidy base) (hblank : s.screen base = .blank) : s.Sound base where
  tidy := h
  inactive _ := hblank
  warranted id kind _ hne _ := absurd (congrFun (congrFun hblank id) kind) hne

/-- A screen stays sound if decorations disappear, and editors without decorations change. -/
theorem of_host (h : s.Sound base) (hdocs : t.sync.docs = s.sync.docs)
    (hunit : t.sync.unit = s.sync.unit) (hsettings : t.sync.settings = s.sync.settings)
    (hphase : t.sync.phase = .inactive → s.sync.phase = .inactive)
    (hledger : t.sync.ledger = s.sync.ledger ∨ t.sync.ledger = {})
    (hscreen : ∀ id kind, t.screen base' id kind = [] ∨
      t.screen base' id kind = s.screen base id kind ∧ t.host.place? id = s.host.place? id) :
    t.Sound base' where
  tidy := h.tidy.of_host hdocs hunit hledger hscreen
  inactive hinactive := by
    funext id kind
    obtain hnil | ⟨hsame, -⟩ := hscreen id kind
    · exact hnil
    · rw [hsame, h.inactive (hphase hinactive)]
  warranted id kind place hne hplace := by
    obtain hnil | ⟨hsame, hplace'⟩ := hscreen id kind
    · exact absurd hnil hne
    · rw [warrants_congr hdocs hunit hsettings]
      exact h.warranted id kind place (hsame ▸ hne) (hplace' ▸ hplace)

/-- An active view may put what its unit warrants, and any view may remove. -/
theorem putAll (h : s.Sound base) (hd : s.host.Distinct)
    (hputs : ∀ p ∈ puts, s.host.Shows p.editor ∧ s.Concerns p.editor.document)
    (hwarranted : ∀ p ∈ puts, p.lines ≠ [] →
      s.sync.phase = .active ∧ s.Warrants p.editor.document p.kind) :
    (s.putAll puts).Sound base where
  tidy := h.tidy.putAll hd hputs
  inactive hinactive := by
    rw [phase_putAll] at hinactive
    funext id kind
    obtain hsame | ⟨p, hp, -, -, hlines⟩ := screen_putAll_cases base id kind
    · rw [hsame, h.inactive hinactive]
    · rw [hlines]
      by_contra hne
      have hactive := (hwarranted p hp hne).1
      simp [hinactive] at hactive
  warranted id kind place hne hplace := by
    rw [place?_putAll] at hplace
    rw [warrants_congr (docs_putAll ..) (unit_putAll _) (settings_putAll _)]
    obtain hsame | ⟨p, hp, rfl, rfl, hlines⟩ := screen_putAll_cases base id kind
    · exact h.warranted id kind place (hsame ▸ hne) hplace
    · obtain rfl := Option.some.inj ((hputs p hp).1.symm.trans hplace)
      exact (hwarranted p hp (hlines ▸ hne)).2

theorem revealAll (h : s.Sound base) : (s.revealAll reveals).Sound base := by
  refine h.of_host ?_ ?_ ?_ ?_ (.inl ?_) fun _ _ => .inr ?_
  · rw [sync_revealAll]
  · rw [sync_revealAll]
  · rw [sync_revealAll]
  · rw [sync_revealAll]
    exact id
  · rw [sync_revealAll]
  · rw [screen_revealAll, place?_revealAll]
    exact ⟨rfl, rfl⟩

end Sound

/-! ### The reactions keep screens sound -/

theorem Tidy.sound_refresh (h : s.Tidy base) (hd : s.host.Distinct) (hone : s.OneListing) :
    s.refresh.Sound base := by
  have hphase : (s.updatePhase s.visible).Tidy base :=
    h.of_host rfl rfl (.inl rfl) fun _ _ => .inr ⟨rfl, rfl⟩
  have hcleared := Sound.of_blank (hphase.blanks hd) (hphase.cleared hd hone)
  rw [refresh_eq]
  split
  · rename_i hactive
    have hphase' := phase_updatePhase_eq_active_iff (s := s).2 hactive
    refine hcleared.putAll (distinct_putAll.2 hd) (fun p hp => ?_) fun p hp _ => ⟨?_, ?_⟩
    · have hmem := VisibleSet.mem_editors_of_mem_decorations hp
      exact ⟨shows_putAll.2 (shows_of_mem_editors hmem),
        concerns_putAll.2 (of_mem_editors hmem).2⟩
    · rwa [phase_putAll]
    · rw [warrants_congr (docs_putAll ..) (unit_putAll _) (settings_putAll _)]
      exact warrants_of_mem_decorations (s := s) hp
  · exact hcleared

theorem Tidy.sound_onUnitChanged (h : s.Tidy base) (hd : s.host.Distinct) (hone : s.OneListing)
    (state : UnitState) : (s.onUnitChanged state).Sound base := by
  rw [onUnitChanged_eq]
  exact (h.replaced hd state).sound_refresh (distinct_putAll.2 hd) (oneListing_putAll.2 hone)

theorem Sound.onVisibleEditorsChanged (h : s.Sound base) (hd : s.host.Distinct)
    (hone : s.OneListing) : s.onVisibleEditorsChanged.Sound base := by
  rw [onVisibleEditorsChanged_eq]
  by_cases hactive : s.visible.isActive = true
  · have hphase := phase_updatePhase_eq_active_iff (s := s).2 hactive
    have hsound : ({ s with sync.ledger := {} : Synced }.updatePhase s.visible).Sound base := by
      refine h.of_host rfl rfl rfl (fun hinactive => ?_) (.inr rfl) fun _ _ => .inr ⟨rfl, rfl⟩
      exact absurd (hphase.symm.trans hinactive) (by decide)
    refine hsound.putAll hd (fun p hp => ?_) fun p hp _ => ⟨hphase, ?_⟩
    · have hmem := mem_editors_of_mem_updates hp
      exact ⟨shows_of_mem_editors hmem, (of_mem_editors hmem).2⟩
    · exact warrants_of_mem_decorations (s := s) (mem_decorations_of_mem_updates hactive hp)
  · have htidy : ({ s with sync.ledger := {} : Synced }.updatePhase s.visible).Tidy base :=
      h.tidy.of_host rfl rfl (.inr rfl) fun _ _ => .inr ⟨rfl, rfl⟩
    rw [updates, if_neg hactive]
    exact .of_blank (htidy.blanks hd) (htidy.cleared hd hone)

theorem Tidy.sound_dispose (h : s.Tidy base) (hd : s.host.Distinct) (hone : s.OneListing) :
    s.dispose.Sound base := by
  refine .of_blank (h.dispose hd) ?_
  rw [dispose_eq]
  exact h.cleared hd hone

theorem Sound.select (h : s.Sound base) (hd : s.host.Distinct) (hactive : s.sync.phase = .active)
    (hcompiled : s.compiled?.isSome) (hputs : s.SelectedOn puts) : (s.putAll puts).Sound base := by
  refine h.putAll hd (fun p hp => (hputs p hp).2) fun p hp _ => ⟨hactive, ?_⟩
  rw [(hputs p hp).1]
  exact hcompiled

theorem Sound.remember (h : s.Sound base) (last : Option Selection) :
    { s with sync.last := last : Synced }.Sound base :=
  h.of_host rfl rfl rfl id (.inl rfl) fun _ _ => .inr ⟨rfl, rfl⟩

theorem Sound.asked {v : VisibleSet} {document : Uri} (h : s.Sound base)
    (hd : (s.asked Host.openSource v document).1.host.Distinct) :
    (s.asked Host.openSource v document).1.Sound base :=
  h.of_host rfl rfl rfl id (.inl rfl) (h.tidy.screen_asked hd)

theorem Sound.marking (h : s.Sound base) (hd : s.host.Distinct) (hmarking : s.Marking t)
    (hd' : t.host.Distinct) : t.Sound base := by
  cases hmarking with
  | ignored => exact h
  | @marked last _ _ hactive hcompiled hon =>
    exact ((h.remember last).select hd hactive hcompiled hon).revealAll
  | @asked last puts more document reveals hactive hcompiled hon hmore =>
    have hd'' := distinct_putAll.1 ((distinct_iff_of_rest (rest_revealAll _)).1 hd')
    have hputs := (h.remember last).select hd hactive hcompiled hon
    have hphase := (phase_putAll (s := { s with sync.last := last }) puts).trans hactive
    have hunit := unit_putAll (s := { s with sync.last := last }) puts
    refine ((hputs.asked hd'').select hd'' hphase ?_ hmore).revealAll
    rw [compiled?]
    exact hunit ▸ hcompiled

/-! ### What holds of a view that was told -/

namespace Exactly

theorem putAll (hexact : s.Exactly base) (h : s.Honest base) (hd : s.host.Distinct)
    (hshows : ∀ p ∈ puts, s.host.Shows p.editor) :
    (s.putAll puts).screen base = (s.screen base).putAll puts ∧ (s.putAll puts).Exactly base := by
  have hspec := h.putAll_spec hd hshows fun p hp => .inr (hexact p.editor p.kind (hshows p hp))
  refine ⟨hspec.1, fun e kind he => ?_⟩
  rw [shows_putAll] at he
  exact hspec.2 e kind he (.inl (hexact e kind he))

theorem of_host (hexact : s.Exactly base) (hledger : t.sync.ledger = s.sync.ledger)
    (hplace : t.host.place? = s.host.place?) (hscreen : t.screen base' = s.screen base) :
    t.Exactly base' := by
  intro e kind he lines hnoted
  have he' : s.host.Shows e := by rwa [Host.Shows, ← hplace]
  rw [hscreen]
  exact hexact e kind he' lines (hledger ▸ hnoted)

theorem of_empty (hledger : s.sync.ledger = {}) : s.Exactly base := by
  intro e kind _ lines hnoted
  rw [hledger] at hnoted
  cases hnoted

end Exactly

theorem freshMarks_congr (hdocs : t.sync.docs = s.sync.docs) (hunit : t.sync.unit = s.sync.unit)
    (hsettings : t.sync.settings = s.sync.settings)
    (heditors : t.host.visibleEditors = s.host.visibleEditors) : t.freshMarks = s.freshMarks := by
  rw [freshMarks, freshMarks, visible_congr hdocs hunit heditors, hunit, hsettings]

namespace Told

variable {seen : Host}

/-- Nothing changes as long as places and screen are the same. -/
theorem of_host (h : s.Told base seen) (hdocs : t.sync.docs = s.sync.docs)
    (hunit : t.sync.unit = s.sync.unit) (hsettings : t.sync.settings = s.sync.settings)
    (hphase : t.sync.phase = s.sync.phase) (hledger : t.sync.ledger = s.sync.ledger)
    (hplace : t.host.place? = s.host.place?) (hscreen : t.screen base' = s.screen base) :
    t.Told base' seen where
  exact := h.exact.of_host hledger hplace hscreen
  active hactive := (isActive_eq hdocs hunit hplace).trans (h.active (hphase ▸ hactive))
  places := h.places.trans hplace.symm
  fresh hactive id kind hkind := by
    have hmarks : (t.seeing seen).freshMarks = (s.seeing seen).freshMarks :=
      freshMarks_congr hdocs hunit hsettings rfl
    rw [hscreen, hmarks]
    exact h.fresh (hphase ▸ hactive) id kind hkind

theorem of_seen {seen' : Host} (h : s.Told base seen') (hplace : seen'.place? = seen.place?)
    (heditors : seen'.visibleEditors = seen.visibleEditors) : s.Told base seen where
  exact := h.exact
  active := h.active
  places := hplace.symm.trans h.places
  fresh hactive id kind hkind := by
    have hmarks : (s.seeing seen').freshMarks = (s.seeing seen).freshMarks :=
      freshMarks_congr rfl rfl rfl heditors
    rw [h.fresh hactive id kind hkind, hmarks]

theorem revealAll (h : s.Told base seen) : (s.revealAll reveals).Told base seen := by
  refine h.of_host ?_ ?_ ?_ ?_ ?_ place?_revealAll screen_revealAll <;> rw [sync_revealAll]

theorem select (h : s.Told base seen) (htidy : s.Tidy base) (hd : s.host.Distinct)
    (hputs : s.SelectedOn puts) : (s.putAll puts).Told base seen where
  exact := (h.exact.putAll htidy.toHonest hd fun p hp => (hputs p hp).2.1).2
  active hactive := by
    rw [visible_putAll]
    exact h.active ((phase_putAll puts).symm.trans hactive)
  places := h.places.trans place?_putAll.symm
  fresh hactive id kind hkind := by
    have hmarks : ((s.putAll puts).seeing seen).freshMarks = (s.seeing seen).freshMarks :=
      freshMarks_congr docs_putAll (unit_putAll _) (settings_putAll _) rfl
    rw [hmarks, ← h.fresh ((phase_putAll puts).symm.trans hactive) id kind hkind]
    obtain hsame | ⟨p, hp, -, hkind', -⟩ := screen_putAll_cases base id kind
    · exact hsame
    · exact absurd (hkind'.symm.trans (hputs p hp).1) hkind

/-- If the visible editors are as long as they were seen, an active view shows what a fresh one
would show, apart from the selected lines. -/
theorem marks_eq (h : s.Told base seen) (hsole : s.SoleListing)
    (hlengths : seen.SameLengths s.host) (hactive : s.sync.phase = .active)
    (hkind : kind ≠ .selected) : s.screen base id kind = s.freshMarks id kind := by
  have hmarks : (s.seeing seen).freshMarks = s.freshMarks :=
    freshMarks_eq rfl rfl rfl h.places hsole hlengths.symm
  rw [h.fresh hactive id kind hkind, hmarks]

end Told

theorem rest_refresh : s.refresh.rest = (s.updatePhase s.visible).rest := by
  rw [refresh_eq, rest_putAll, rest_putAll]

theorem freshScreen_refresh : s.refresh.freshScreen = s.freshScreen := by
  have hphase : (s.updatePhase s.visible).freshScreen = s.freshScreen := rfl
  exact (freshScreen_eq_of_rest rest_refresh).trans hphase

theorem freshScreen_onUnitChanged {state : UnitState} : (s.onUnitChanged state).freshScreen =
    ({ s with sync.unit := some state } : Synced).freshScreen := by
  rw [onUnitChanged_eq, freshScreen_refresh, freshScreen_replaced]

theorem phase_refresh_eq_active_iff :
    s.refresh.sync.phase = .active ↔ s.visible.isActive = true := by
  rw [refresh_eq, phase_putAll, phase_putAll, phase_updatePhase_eq_active_iff]

theorem place?_refresh : s.refresh.host.place? = s.host.place? := by
  have hplace := congrArg (·.host.place?) (rest_refresh (s := s))
  exact hplace

theorem Tidy.told_refresh (h : s.Tidy base) (hd : s.host.Distinct) (hone : s.OneListing)
    (hexact : s.Exactly base) : s.refresh.Told base s.host := by
  have hphase : (s.updatePhase s.visible).Tidy base :=
    h.of_host rfl rfl (.inl rfl) fun _ _ => .inr ⟨rfl, rfl⟩
  constructor
  · have hcleared := (hexact.of_host rfl rfl rfl : (s.updatePhase s.visible).Exactly base).putAll
      hphase.toHonest hd fun p hp => shows_of_mem_editors (VisibleSet.mem_blanks_iff.1 hp).1
    rw [refresh_eq]
    split
    · refine (hcleared.2.putAll (hphase.blanks hd).toHonest (distinct_putAll.2 hd) fun p hp => ?_).2
      exact shows_putAll.2 (shows_of_mem_editors (VisibleSet.mem_editors_of_mem_decorations hp))
    · exact hcleared.2
  · intro hactive
    rw [visible_eq_of_rest rest_refresh]
    exact phase_refresh_eq_active_iff.1 hactive
  · exact place?_refresh.symm
  · intro hactive id kind hkind
    have hmarks : (s.refresh.seeing s.host).freshMarks = s.freshMarks :=
      freshMarks_congr (congrArg (·.sync.docs) rest_refresh) (congrArg (·.sync.unit) rest_refresh)
        (congrArg (·.sync.settings) rest_refresh) rfl
    rw [h.screen_refresh hd hone,
      freshScreen_eq_freshMarks (phase_refresh_eq_active_iff.1 hactive) hkind, hmarks]

theorem Tidy.told_onUnitChanged (h : s.Tidy base) (hd : s.host.Distinct) (hone : s.OneListing)
    (hexact : s.Exactly base) (state : UnitState) : (s.onUnitChanged state).Told base s.host := by
  have hcleared := hexact.putAll h.toHonest hd fun p hp =>
    shows_of_mem_editors (VisibleSet.mem_blanks_iff.1 hp).1
  rw [onUnitChanged_eq]
  exact ((h.replaced hd state).told_refresh (distinct_putAll.2 hd) (oneListing_putAll.2 hone)
    (hcleared.2.of_host rfl rfl rfl)).of_seen place?_putAll visibleEditors_putAll

theorem Told.dispose {seen : Host} (h : s.Told base seen) (htidy : s.Tidy base)
    (hd : s.host.Distinct) : s.dispose.Told base seen := by
  have hcleared := h.exact.putAll htidy.toHonest hd fun p hp =>
    shows_of_mem_editors (VisibleSet.mem_blanks_iff.1 hp).1
  rw [dispose_eq]
  refine ⟨hcleared.2.of_host rfl rfl rfl, ?_, h.places.trans place?_putAll.symm, ?_⟩
  · intro hactive
    cases hactive
  · intro hactive
    cases hactive

theorem Told.remember {seen : Host} (h : s.Told base seen) (last : Option Selection) :
    { s with sync.last := last : Synced }.Told base seen :=
  h.of_host rfl rfl rfl rfl rfl rfl rfl

theorem Told.screen_remember {seen : Host} (h : s.Told base seen) (htidy : s.Tidy base)
    (hd : s.host.Distinct) (last : Option Selection) (hputs : s.SelectedOn puts) :
    ({ s with sync.last := last : Synced }.putAll puts).screen base =
      (s.screen base).putAll puts :=
  ((h.remember last).exact.putAll (htidy.remember last).toHonest hd fun p hp => (hputs p hp).2.1).1

theorem Told.asked {seen : Host} {v : VisibleSet} {document : Uri} (h : s.Told base seen)
    (hplace : (s.asked Host.openSource v document).1.host.place? = s.host.place?) :
    (s.asked Host.openSource v document).1.Told base seen :=
  h.of_host rfl rfl rfl rfl rfl hplace rfl

theorem Told.marking {seen : Host} (h : s.Told base seen) (htidy : s.Tidy base)
    (hd : s.host.Distinct) (hmarking : s.Marking t) (hplace : t.host.place? = s.host.place?)
    (hd' : t.host.Distinct) : t.Told base seen := by
  cases hmarking with
  | ignored => exact h
  | @marked last _ _ _ _ hon =>
    exact ((h.remember last).select (htidy.remember last) hd hon).revealAll
  | @asked last puts more document reveals _ _ hon hmore =>
    have hd'' := distinct_putAll.1 ((distinct_iff_of_rest (rest_revealAll _)).1 hd')
    have hputs := (h.remember last).select (htidy.remember last) hd hon
    have htidy' := ((htidy.remember last).putAll hd fun p hp => (hon p hp).2).asked hd''
    refine ((hputs.asked ?_).select htidy' hd'' hmore).revealAll
    rw [place?_revealAll, place?_putAll] at hplace
    rw [place?_putAll]
    exact hplace

/-- A view that is told of a change of the visible editors renews its marks on all of them, and
shows no others of these kinds. -/
theorem Sound.fresh_renewed (h : s.Sound base) (hone : s.OneListing) (hkind : kind ≠ .selected) :
    (s.screen base).putAll (s.visible.renewals s.sync.settings s.sync.unit) id kind =
      s.freshMarks id kind := by
  refine Screen.putAll_congr ?_
  by_cases hnil : s.screen base id kind = []
  · exact .inl hnil
  · -- the mark is on an editor of the view, and of a kind that the unit warrants
    refine .inr ?_
    obtain ⟨e, he, rfl⟩ := h.tidy.exists_of_ne hone hnil
    have hshows : s.host.place? e.id = some (e.document, e.column) := shows_of_mem_editors he
    have hwarrants := h.warranted e.id kind _ hnil hshows
    cases kind with
    | selected => exact absurd rfl hkind
    | loading =>
      obtain ⟨hunit, hdocument⟩ := hwarrants
      have hassembly := hone.assembly_eq (of_mem_editors he).1 hdocument
      exact ⟨_, VisibleSet.mem_renewals_iff.2 (.inl ⟨hunit, e, hassembly, rfl⟩), rfl, rfl⟩
    | unused =>
      obtain ⟨hdim, hcompiled, hdocument⟩ := hwarrants
      obtain ⟨unit, hunit⟩ := Option.isSome_iff_exists.1 hcompiled
      rw [compiled?_eq_some_iff] at hunit
      have hsource : e ∈ s.visible.sources := by
        refine (List.mem_append.1 he).resolve_right fun hassembly => hdocument ?_
        exact (mem_visibleEditors_of_assembly (Option.mem_toList.1 hassembly)).2
      exact ⟨_, VisibleSet.mem_renewals_iff.2 (.inr ⟨unit, hunit, hdim, e, hsource, rfl⟩), rfl, rfl⟩

theorem rest_onVisibleEditorsChanged :
    s.onVisibleEditorsChanged.rest = (s.updatePhase s.visible).rest := by
  rw [onVisibleEditorsChanged_eq, rest_putAll]
  rfl

@[simp] theorem visible_onVisibleEditorsChanged :
    s.onVisibleEditorsChanged.visible = s.visible := by
  have hvisible : s.onVisibleEditorsChanged.visible = (s.updatePhase s.visible).visible :=
    visible_eq_of_rest rest_onVisibleEditorsChanged
  exact hvisible

@[simp] theorem place?_onVisibleEditorsChanged :
    s.onVisibleEditorsChanged.host.place? = s.host.place? := by
  have hplace := congrArg (·.host.place?) (rest_onVisibleEditorsChanged (s := s))
  exact hplace

@[simp] theorem freshScreen_onVisibleEditorsChanged :
    s.onVisibleEditorsChanged.freshScreen = s.freshScreen := by
  have hfresh : s.onVisibleEditorsChanged.freshScreen = (s.updatePhase s.visible).freshScreen :=
    freshScreen_eq_of_rest rest_onVisibleEditorsChanged
  exact hfresh

theorem phase_onVisibleEditorsChanged_eq_active_iff :
    s.onVisibleEditorsChanged.sync.phase = .active ↔ s.visible.isActive = true := by
  rw [onVisibleEditorsChanged_eq, phase_putAll, phase_updatePhase_eq_active_iff]

/-- A view that is told of a change of the visible editors puts its updates on the screen, whatever
its ledger had. -/
theorem Tidy.spec_onVisibleEditorsChanged (h : s.Tidy base) (hd : s.host.Distinct) :
    s.onVisibleEditorsChanged.screen base = (s.screen base).putAll s.updates ∧
      s.onVisibleEditorsChanged.Exactly base := by
  have htidy : ({ s with sync.ledger := {} : Synced }.updatePhase s.visible).Tidy base :=
    h.of_host rfl rfl (.inr rfl) fun _ _ => .inr ⟨rfl, rfl⟩
  have hexact : ({ s with sync.ledger := {} : Synced }.updatePhase s.visible).Exactly base :=
    .of_empty rfl
  rw [onVisibleEditorsChanged_eq]
  refine hexact.putAll htidy.toHonest hd fun p hp => ?_
  exact shows_of_mem_editors (mem_editors_of_mem_updates (s := s) hp)

/-- **A view that becomes active shows what a fresh view would show.** -/
theorem Sound.screen_activated (h : s.Sound base) (hd : s.host.Distinct)
    (hinactive : s.sync.phase = .inactive) (hactive : s.visible.isActive = true) :
    s.onVisibleEditorsChanged.screen base = s.freshScreen := by
  rw [(h.tidy.spec_onVisibleEditorsChanged hd).1, h.inactive hinactive, updates, if_pos hactive,
    hinactive, freshScreen, if_pos hactive]

/-- A view that stays active renews its marks. -/
theorem Tidy.screen_renewed (h : s.Tidy base) (hd : s.host.Distinct)
    (hphase : s.sync.phase = .active) (hactive : s.visible.isActive = true) :
    s.onVisibleEditorsChanged.screen base =
      (s.screen base).putAll (s.visible.renewals s.sync.settings s.sync.unit) := by
  rw [(h.spec_onVisibleEditorsChanged hd).1, updates, if_pos hactive, hphase]

theorem Sound.told_onVisibleEditorsChanged (h : s.Sound base) (hd : s.host.Distinct)
    (hone : s.OneListing) : s.onVisibleEditorsChanged.Told base s.host := by
  constructor
  · exact (h.tidy.spec_onVisibleEditorsChanged hd).2
  · intro hactive
    rw [visible_onVisibleEditorsChanged]
    exact phase_onVisibleEditorsChanged_eq_active_iff.1 hactive
  · exact place?_onVisibleEditorsChanged.symm
  · intro hphase id kind hkind
    have hactive := phase_onVisibleEditorsChanged_eq_active_iff.1 hphase
    have hmarks : (s.onVisibleEditorsChanged.seeing s.host).freshMarks = s.freshMarks :=
      freshMarks_congr (congrArg (·.sync.docs) rest_onVisibleEditorsChanged)
        (congrArg (·.sync.unit) rest_onVisibleEditorsChanged)
        (congrArg (·.sync.settings) rest_onVisibleEditorsChanged) rfl
    rw [hmarks]
    cases hbefore : s.sync.phase with
    | inactive =>
      rw [h.screen_activated hd hbefore hactive, freshScreen_eq_freshMarks hactive hkind]
    | active =>
      rw [h.tidy.screen_renewed hd hbefore hactive, h.fresh_renewed hone hkind]

end Synced

namespace Scene

/-! ### Sound scenes -/

/-- The screen is sound, and the view knows it unless it is still to be told of a change. -/
structure Sound (s : Scene) : Prop where
  /-- The view shows only what it may. -/
  sound : s.view.Sound s.base
  /-- The view knows what is on the screen. -/
  told : s.news = false → s.view.Told s.base s.seen

variable {s : Scene} {event : Event} {events : List Event}

theorem sound_initial (docs : ViewDocuments) (settings : SyncSettings) (host : Host) :
    (initial docs settings host).Sound where
  sound := .of_blank (tidy_initial docs settings host) rfl
  told _ :=
    { exact := .of_empty rfl
      active := fun hactive => nomatch hactive
      places := rfl
      fresh := fun hactive => nomatch hactive }

/-- After an event other than the news of a change, the view is still to be told of a change if it
was before or if the visible editors stand in other places. -/
theorem of_news_eq_false (hevent : event ≠ .command .visibleEditorsChanged)
    (h : (s.after event).news = false) :
    s.news = false ∧ (s.after event).view.host.place? = s.view.host.place? := by
  have hmoves : s.news = false ∧ s.view.host.moves (s.after event).view.host = false := by
    match event with
    | .command .visibleEditorsChanged => exact absurd rfl hevent
    | .command .refresh | .command (.unit _) | .command (.selection _) | .command .close =>
      simpa [after, became, newsAfter] using h
    | .host host =>
      have hmoves : s.news = false ∧ s.view.host.moves host = false := by simpa [after] using h
      exact hmoves
  exact hmoves.imp_right Host.place?_eq_of_moves

theorem Sound.command (h : s.Sound) (ho : s.Orderly) (command : ViewCommand)
    (hallowed : s.Allows (.command command)) (ho' : (s.after (.command command)).Orderly) :
    (s.after (.command command)).Sound := by
  obtain ⟨hd, hone⟩ := ho
  have htidy := h.sound.tidy
  constructor
  · rw [view_command, base_command]
    cases command with
    | refresh => exact htidy.sound_refresh hd hone
    | unit state => exact htidy.sound_onUnitChanged hd hone state
    | selection change => exact h.sound.marking hd (Synced.marking hallowed) ho'.1
    | visibleEditorsChanged => exact h.sound.onVisibleEditorsChanged hd hone
    | close => exact htidy.sound_dispose hd hone
  · intro hnews
    rw [view_command, base_command]
    by_cases hcommand : command = .visibleEditorsChanged
    · subst hcommand
      exact h.sound.told_onVisibleEditorsChanged hd hone
    · obtain ⟨hbefore, hplace⟩ := of_news_eq_false (by simpa using hcommand) hnews
      have htold := h.told hbefore
      cases command with
      | refresh => exact htidy.told_refresh hd hone htold.exact
      | unit state => exact htidy.told_onUnitChanged hd hone htold.exact state
      | selection change =>
        exact htold.marking htidy hd (Synced.marking hallowed) hplace ho'.1
      | visibleEditorsChanged => exact absurd rfl hcommand
      | close => exact htold.dispose htidy hd

/-- What the host leaves of the decorations of an editor: all, or none if it has moved. -/
theorem screen_host (host : Host) (id : String) (kind : DecorationKind) :
    (s.after (.host host)).screen id kind =
      if host.place? id = s.view.host.place? id then s.screen id kind else [] :=
  rfl

/-- Nothing is dropped as long as the editors stay in their places. -/
theorem screen_host_of_place? {host : Host} (hplace : host.place? = s.view.host.place?) :
    (s.after (.host host)).screen = s.screen := by
  funext id kind
  rw [screen_host, if_pos (congrFun hplace id)]

theorem Sound.host (h : s.Sound) (host : Host) : (s.after (.host host)).Sound := by
  constructor
  · refine h.sound.of_host rfl rfl rfl id (.inl rfl) fun id kind => ?_
    change (s.after (.host host)).screen id kind = [] ∨
      (s.after (.host host)).screen id kind = s.screen id kind ∧
        host.place? id = s.view.host.place? id
    rw [screen_host]
    split
    · exact .inr ⟨rfl, ‹_›⟩
    · exact .inl rfl
  · intro hnews
    obtain ⟨hbefore, hplace⟩ := of_news_eq_false (by simp) hnews
    exact (h.told hbefore).of_host rfl rfl rfl rfl rfl hplace (screen_host_of_place? hplace)

/-- **Every event keeps scenes sound.** -/
theorem Sound.after (h : s.Sound) (ho : s.Orderly) (hallowed : s.Allows event)
    (ho' : (s.after event).Orderly) : (s.after event).Sound := by
  cases event with
  | command command => exact h.command ho command hallowed ho'
  | host host => exact h.host host

theorem Sound.afterAll (h : s.Sound) (hallowed : s.AllowsAll events)
    (horderly : s.Throughout Orderly events) : (s.afterAll events).Sound :=
  afterAll_induction (fun _ _ h ho hallowed ho' => h.after ho hallowed ho') h hallowed horderly

end Scene

end AsmExplorer
