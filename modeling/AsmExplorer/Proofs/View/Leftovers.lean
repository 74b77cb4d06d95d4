import AsmExplorer.Proofs.View.Documents
import AsmExplorer.Proofs.View.Marks

/-!
# What an inactive view leaves behind

A view that is inactive after it took in a change, or that was disposed of, has removed its
decorations from its editors.  These are all editors of its sources, but of the editors of the
listing only the first one, and a line can be selected in any of them.  So the decorations of the
other editors of the listing stay as they are, and those of all other editors are gone
(`Scene.only_other_listings_keep_marks`).  With one editor of the listing at most, nothing is left.
-/

namespace AsmExplorer

namespace Synced

variable {base : Screen} {s t : Synced} {e : Editor} {kind : DecorationKind}

/-- An editor shows the listing and is not the editor of the listing that the view knows. -/
def OtherListing (s : Synced) (e : Editor) : Prop :=
  e.document = s.sync.docs.assembly ∧ s.visible.assembly ≠ some e

instance : Decidable (s.OtherListing e) :=
  inferInstanceAs (Decidable (_ ∧ _))

theorem OneListing.not_otherListing (hone : s.OneListing) (he : e ∈ s.host.visibleEditors) :
    ¬s.OtherListing e :=
  fun hother => hother.2 (hone.assembly_eq he hother.1)

/-- After a command the view shows nothing: it took in a change and is inactive, or it was disposed
of. -/
def Silences (s : Synced) : ViewCommand → Prop
  | .selection _ => False
  | command => (s.handle command).sync.phase = .inactive

instance decidableSilences : (command : ViewCommand) → Decidable (s.Silences command)
  | .selection _ => .isFalse id
  | .refresh | .unit _ | .visibleEditorsChanged | .close =>
    inferInstanceAs (Decidable ((s.handle _).sync.phase = .inactive))

/-- **What clearing leaves.**  The other editors of the listing keep what they have, and no other
visible editor has anything. -/
theorem Tidy.screen_cleared (h : s.Tidy base) (hd : s.host.Distinct)
    (he : e ∈ s.host.visibleEditors) (kind : DecorationKind) :
    (s.putAll s.visible.blanks).screen base e.id kind =
      if s.OtherListing e then s.screen base e.id kind else [] := by
  rw [screen_blanks h.toHonest hd]
  by_cases hmem : e ∈ s.visible.editors
  · have hknown : ¬s.OtherListing e := by
      rintro ⟨hdocument, hother⟩
      obtain hsource | hassembly := List.mem_append.1 hmem
      · exact (mem_sources_iff.1 hsource).2.1 hdocument
      · exact hother (Option.mem_toList.1 hassembly)
    rw [Screen.putAll_blanks hmem, if_neg hknown]
  · have hsame : (s.screen base).putAll s.visible.blanks e.id kind = s.screen base e.id kind := by
      refine Screen.putAll_of_forall_ne fun p hp _ hid => hmem ?_
      have hp := (VisibleSet.mem_blanks_iff.1 hp).1
      exact Host.eq_of_id_eq (of_mem_editors hp).1 he hid ▸ hp
    rw [hsame]
    by_cases hother : s.OtherListing e
    · rw [if_pos hother]
    · rw [if_neg hother]
      by_contra hne
      -- what is decorated concerns the view, so the editor would be one of the view
      obtain hassembly | hsource := h.concerns e.id kind _ hne (Host.shows_of_mem he)
      · refine hother ⟨hassembly, fun hknown => hmem ?_⟩
        exact VisibleSet.mem_editors_of_assembly hknown
      · by_cases hassembly : e.document = s.sync.docs.assembly
        · refine hother ⟨hassembly, fun hknown => hmem ?_⟩
          exact VisibleSet.mem_editors_of_assembly hknown
        · refine hmem (VisibleSet.mem_editors_of_mem_sources ?_)
          exact mem_sources_iff.2 ⟨he, hassembly, hsource⟩

/-! ### The reactions of a view that is inactive afterwards -/

theorem otherListing_congr (hdocs : t.sync.docs = s.sync.docs)
    (heditors : t.host.visibleEditors = s.host.visibleEditors) :
    t.OtherListing e ↔ s.OtherListing e := by
  simp only [OtherListing, visible, ViewDocuments.classify, hdocs, heditors]

theorem Tidy.screen_refresh_inactive (h : s.Tidy base) (hd : s.host.Distinct)
    (he : e ∈ s.host.visibleEditors) (hinactive : s.refresh.sync.phase = .inactive) :
    s.refresh.screen base e.id kind =
      if s.OtherListing e then s.screen base e.id kind else [] := by
  have hphase : (s.updatePhase s.visible).Tidy base :=
    h.of_host rfl rfl (.inl rfl) fun _ _ => .inr ⟨rfl, rfl⟩
  have hnot : ¬s.visible.isActive = true := fun hactive => by
    simp [phase_refresh_eq_active_iff.2 hactive] at hinactive
  rw [refresh_eq, if_neg hnot, putAll_nil]
  exact hphase.screen_cleared hd he kind

/-- The view clears its editors twice, and knows the same editor of the listing both times. -/
theorem Tidy.screen_onUnitChanged_inactive (h : s.Tidy base) (hd : s.host.Distinct)
    (he : e ∈ s.host.visibleEditors) {state : UnitState}
    (hinactive : (s.onUnitChanged state).sync.phase = .inactive) :
    (s.onUnitChanged state).screen base e.id kind =
      if s.OtherListing e then s.screen base e.id kind else [] := by
  have he' : e ∈ (s.putAll s.visible.blanks).host.visibleEditors := by
    rw [visibleEditors_putAll]
    exact he
  rw [onUnitChanged_eq] at hinactive ⊢
  have hcleared := h.screen_cleared hd he kind
  rw [(h.replaced hd state).screen_refresh_inactive (distinct_putAll.2 hd) he' hinactive]
  have hsame : { s.putAll s.visible.blanks with sync.unit := some state : Synced }.OtherListing e ↔
      s.OtherListing e := otherListing_congr docs_putAll visibleEditors_putAll
  by_cases hother : s.OtherListing e
  · rw [if_pos (hsame.2 hother)]
    exact hcleared
  · rw [if_neg (mt hsame.1 hother), if_neg hother]

theorem Tidy.screen_onVisibleEditorsChanged_inactive (h : s.Tidy base) (hd : s.host.Distinct)
    (he : e ∈ s.host.visibleEditors)
    (hinactive : s.onVisibleEditorsChanged.sync.phase = .inactive) :
    s.onVisibleEditorsChanged.screen base e.id kind =
      if s.OtherListing e then s.screen base e.id kind else [] := by
  have hphase : ({ s with sync.ledger := {} : Synced }.updatePhase s.visible).Tidy base :=
    h.of_host rfl rfl (.inr rfl) fun _ _ => .inr ⟨rfl, rfl⟩
  have hnot : ¬s.visible.isActive = true := fun hactive => by
    simp [phase_onVisibleEditorsChanged_eq_active_iff.2 hactive] at hinactive
  rw [onVisibleEditorsChanged_eq, updates, if_neg hnot]
  exact hphase.screen_cleared hd he kind

theorem Tidy.screen_dispose (h : s.Tidy base) (hd : s.host.Distinct)
    (he : e ∈ s.host.visibleEditors) :
    s.dispose.screen base e.id kind =
      if s.OtherListing e then s.screen base e.id kind else [] := by
  rw [dispose_eq]
  exact h.screen_cleared hd he kind

theorem Tidy.exists_visible (h : s.Tidy base) {id : String} (hne : s.screen base id kind ≠ []) :
    ∃ e ∈ s.host.visibleEditors, e.id = id := by
  obtain ⟨place, hplace⟩ := Option.isSome_iff_exists.1 (h.visible id kind hne)
  obtain ⟨e, he, hid, -⟩ := Host.exists_mem_of_place? hplace
  exact ⟨e, he, hid⟩

theorem Silences.visibleEditors_eq {command : ViewCommand} (h : s.Silences command) :
    (s.handle command).host.visibleEditors = s.host.visibleEditors := by
  have hrefresh : ∀ s : Synced, s.refresh.host.visibleEditors = s.host.visibleEditors :=
    fun s => congrArg (·.host.visibleEditors) (rest_refresh (s := s))
  cases command with
  | refresh => exact hrefresh s
  | unit state =>
    rw [handle, onUnitChanged_eq, hrefresh]
    exact visibleEditors_putAll
  | selection _ => exact h.elim
  | visibleEditorsChanged =>
    exact congrArg (·.host.visibleEditors) (rest_onVisibleEditorsChanged (s := s))
  | close =>
    rw [handle, dispose_eq]
    exact visibleEditors_putAll

theorem Tidy.screen_silenced {command : ViewCommand} (h : s.Tidy base) (hd : s.host.Distinct)
    (hsilent : s.Silences command) (he : e ∈ s.host.visibleEditors) (kind : DecorationKind) :
    (s.handle command).screen base e.id kind =
      if s.OtherListing e then s.screen base e.id kind else [] := by
  cases command with
  | refresh => exact h.screen_refresh_inactive hd he hsilent
  | unit state => exact h.screen_onUnitChanged_inactive hd he hsilent
  | selection _ => exact hsilent.elim
  | visibleEditorsChanged => exact h.screen_onVisibleEditorsChanged_inactive hd he hsilent
  | close => exact h.screen_dispose hd he

end Synced

namespace Scene

/-- **An inactive view leaves its marks on other editors of the listing, and nowhere else.**  After
any run in which selections name visible editors and no two visible editors stand in the same place,
and after any command that leaves the view inactive or disposes of it: an editor of the listing that
is not the first one keeps what it had, and nothing else is decorated.  So with one editor of the
listing at most nothing is left.  It does not matter whether the view was told of every change of
the visible editors. -/
theorem only_other_listings_keep_marks (docs : ViewDocuments) (settings : SyncSettings)
    (host : Host) (events : List Event) (command : ViewCommand)
    (hallowed : (initial docs settings host).AllowsAll events)
    (hdistinct : (initial docs settings host).Throughout Distinct events)
    (hsilent : ((initial docs settings host).afterAll events).view.Silences command) :
    let s := (initial docs settings host).afterAll events
    let t := s.after (.command command)
    (∀ e ∈ t.view.host.visibleEditors, ∀ kind,
      t.screen e.id kind = if t.view.OtherListing e then s.screen e.id kind else []) ∧
      (∀ id kind, t.screen id kind ≠ [] → ∃ e ∈ t.view.host.visibleEditors, e.id = id) ∧
      (t.OneListing → t.screen = .blank) := by
  intro s t
  have htidy : s.Tidy := tidy_afterAll docs settings host hallowed hdistinct
  have hd : s.Distinct := hdistinct.last
  have heditors : t.view.host.visibleEditors = s.view.host.visibleEditors :=
    hsilent.visibleEditors_eq
  have hdocs : t.view.sync.docs = s.view.sync.docs :=
    congrArg Prod.fst (Synced.given_handle command)
  have ht : t.Tidy := by
    refine htidy.after hd ?_ ?_
    · cases command with
      | selection _ => exact hsilent.elim
      | refresh | unit _ | visibleEditorsChanged | close => trivial
    · show (t.view.host.visibleEditors.map _).Nodup
      rw [heditors]
      exact hd
  have hmarks : ∀ e ∈ t.view.host.visibleEditors, ∀ kind,
      t.screen e.id kind = if t.view.OtherListing e then s.screen e.id kind else [] := by
    intro e he kind
    have hscreen := htidy.screen_silenced hd hsilent (heditors ▸ he) kind
    rw [if_congr (Synced.otherListing_congr hdocs heditors) rfl rfl]
    exact hscreen
  refine ⟨hmarks, fun _ _ hne => ht.exists_visible hne, fun hone => ?_⟩
  funext id kind
  by_contra hne
  obtain ⟨e, he, rfl⟩ := ht.exists_visible hne
  have hother : ¬t.view.OtherListing e := Synced.OneListing.not_otherListing hone he
  rw [hmarks e he kind, if_neg hother] at hne
  exact hne rfl

/-- Source and header stay visible and the listing does not; the view is told, and nothing is left
of the selected line in the header. -/
theorem header_left_blank :
    let s := (initial exampleDocs {} (showing [sourceEditor, headerEditor, listingEditor])).afterAll
      (compiledRun ++ [select headerEditor 0,
        .host { editors := [sourceEditor, headerEditor, listingEditor]
                visible := ["source", "header"] }])
    s.screen "header" .selected = [0] ∧
      (s.after (.command .visibleEditorsChanged)).screen = .blank := by
  intro s
  obtain ⟨-, -, hblank⟩ := only_other_listings_keep_marks exampleDocs {}
    (showing [sourceEditor, headerEditor, listingEditor])
    (compiledRun ++ [select headerEditor 0,
      .host { editors := [sourceEditor, headerEditor, listingEditor]
              visible := ["source", "header"] }])
    .visibleEditorsChanged (by decide +kernel) (by decide +kernel) (by decide +kernel)
  exact ⟨by decide +kernel, hblank (by decide +kernel)⟩

/-- Another editor of the listing. -/
def secondListing : Editor :=
  { listingEditor with id := "second", column := some 4 }

/-- A line is selected in the second editor of the listing.  Then no source is visible any more, and
the view is told. -/
def secondListingRun : List Event :=
  compiledRun ++ [select secondListing 0,
    .host { editors := [sourceEditor, listingEditor, secondListing]
            visible := ["listing", "second"] },
    .command .visibleEditorsChanged]

/-- **A mark that stays.**  The view is inactive and was told of everything, and then it is disposed
of; but the second editor of the listing keeps its selected line. -/
theorem second_listing_keeps_mark :
    let start := initial exampleDocs {} (showing [sourceEditor, listingEditor, secondListing])
    let s := start.afterAll secondListingRun
    start.AllowsAll secondListingRun ∧ start.Throughout Distinct secondListingRun ∧
      s.news = false ∧ s.view.sync.phase = .inactive ∧
      secondListing ∈ s.view.host.visibleEditors ∧
      secondListing.document = s.view.sync.docs.assembly ∧
      s.screen "second" .selected = [0] ∧
      (s.after (.command .close)).screen "second" .selected = [0] := by
  decide +kernel

end Scene

end AsmExplorer
