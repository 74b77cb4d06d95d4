import AsmExplorer.Proofs.View.Scene

/-!
# A new unit replaces the old one on the screen

Whatever happened to a view before, what it shows after a new unit came is what a fresh view would
show that is told of the unit on the same editors without decorations (`Scene.unit_replaces`).  So
no decoration of the outgoing unit remains, also not on sources that the new one does not refer to.

The ledger tells editors apart by document and column, and so this needs that no two visible editors
have ever had the same document and column.  If two have, then clearing the first of them counts for
both, and what is on the second stays there for good (`Scene.twin_mark_stays`).
-/

namespace AsmExplorer

namespace Scene

/-- A fresh view with the settings and the last selection of the view, on the same editors without
decorations. -/
def renewed (s : Scene) : Scene :=
  let start := initial s.view.sync.docs s.view.sync.settings s.view.host
  { start with view.sync.last := s.view.sync.last }

variable {s : Scene}

theorem tidy_renewed (s : Scene) : s.renewed.Tidy :=
  (tidy_initial s.view.sync.docs s.view.sync.settings s.view.host).of_host rfl rfl (.inl rfl)
    fun _ _ => .inr ⟨rfl, rfl⟩

theorem Tidy.screen_unit (h : s.Tidy) (hd : s.Distinct) (hone : s.OneListing) (state : UnitState) :
    (s.after (.command (.unit state))).screen =
      ({ s.view with sync.unit := some state } : Synced).freshScreen := by
  rw [screen_command]
  exact h.screen_onUnitChanged hd hone state

theorem Tidy.screen_unit_renewed (h : s.Tidy) (hd : s.Distinct) (hone : s.OneListing)
    (state : UnitState) : (s.after (.command (.unit state))).screen =
      (s.renewed.after (.command (.unit state))).screen := by
  rw [h.screen_unit hd hone, s.tidy_renewed.screen_unit hd hone]
  rfl

theorem Tidy.exists_of_ne_unit (h : s.Tidy) (hd : s.Distinct) (hone : s.OneListing)
    {state : UnitState} {id : String} {kind : DecorationKind}
    (hne : (s.after (.command (.unit state))).screen id kind ≠ []) :
    ∃ e ∈ (s.after (.command (.unit state))).view.visible.editors, e.id = id := by
  rw [screen_command] at hne
  rw [view_command]
  refine (Synced.Tidy.onUnitChanged h hd state).exists_of_ne ?_ hne
  exact Synced.oneListing_onUnitChanged.2 hone

/-- **A new unit replaces the old one on the screen.**  After any run in which selections name
visible editors and no two visible editors ever stand in the same place, and with at most one
visible editor of the listing: what is decorated after a new unit came is what a fresh view with the
same settings and the same last selection decorates on the same editors, and only editors of the
view are decorated.  It does not matter whether the view was told of every change of the visible
editors. -/
theorem unit_replaces (docs : ViewDocuments) (settings : SyncSettings) (host : Host)
    (events : List Event) (state : UnitState)
    (hallowed : (initial docs settings host).AllowsAll events)
    (hdistinct : (initial docs settings host).Throughout Distinct events)
    (hone : ((initial docs settings host).afterAll events).OneListing) :
    let s := (initial docs settings host).afterAll events
    let t := s.after (.command (.unit state))
    t.screen = (s.renewed.after (.command (.unit state))).screen ∧
      ∀ id kind, t.screen id kind ≠ [] → ∃ e ∈ t.view.visible.editors, e.id = id := by
  intro s t
  have htidy : s.Tidy := tidy_afterAll docs settings host hallowed hdistinct
  have hd : s.Distinct := hdistinct.last
  refine ⟨htidy.screen_unit_renewed hd hone state, fun id kind hne => ?_⟩
  exact htidy.exists_of_ne_unit hd hone hne

/-- The header has a selected line, which is gone when a listing comes that does not refer to it. -/
theorem header_cleared :
    let s := (initial exampleDocs {} (showing [sourceEditor, headerEditor, listingEditor])).afterAll
      (compiledRun ++ [select headerEditor 0])
    let t := s.after (.command (.unit (.compiled bareUnit)))
    s.screen "header" .selected = [0] ∧ s.screen "header" .unused = [1] ∧
      t.screen = (s.renewed.after (.command (.unit (.compiled bareUnit)))).screen ∧
      t.screen "header" = fun _ => [] := by
  intro s t
  obtain ⟨hscreen, hmem⟩ := unit_replaces exampleDocs {}
    (showing [sourceEditor, headerEditor, listingEditor]) (compiledRun ++ [select headerEditor 0])
    (.compiled bareUnit) (by decide +kernel) (by decide +kernel) (by decide +kernel)
  refine ⟨by decide +kernel, by decide +kernel, hscreen, ?_⟩
  have hnot : ¬∃ e ∈ t.view.visible.editors, e.id = "header" := by decide +kernel
  funext kind
  by_contra hne
  exact hnot (hmem "header" kind hne)

/-- An editor of the header that stands in no column. -/
def looseEditor (id : String) : Editor :=
  { headerEditor with id, column := none }

/-- A line is selected in the second of two editors of the header that stand in no column.  Then a
listing comes that does not refer to the header, and the first of the two leaves the screen. -/
def twinRun : List Event :=
  compiledRun ++ [select (looseEditor "right") 0, .command (.unit (.compiled bareUnit)),
    .host { editors := [sourceEditor, looseEditor "left", looseEditor "right", listingEditor]
            visible := ["source", "right", "listing"] },
    .command .visibleEditorsChanged]

/-- **A mark of the outgoing unit that stays.**  No two visible editors stand in the same place when
the new unit comes, and the view was told of every change of the visible editors; but two visible
editors were in one place before, and the second of them keeps its selected line, which a fresh view
would not show. -/
theorem twin_mark_stays :
    let start := initial exampleDocs {}
      (showing [sourceEditor, looseEditor "left", looseEditor "right", listingEditor])
    let s := start.afterAll twinRun
    let t := s.after (.command (.unit (.compiled bareUnit)))
    start.AllowsAll twinRun ∧ s.Distinct ∧ s.OneListing ∧ s.news = false ∧
      t.screen "right" .selected = [0] ∧
      (s.renewed.after (.command (.unit (.compiled bareUnit)))).screen "right" .selected = [] := by
  decide +kernel

end Scene

end AsmExplorer
