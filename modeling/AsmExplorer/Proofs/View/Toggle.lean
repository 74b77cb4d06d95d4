import AsmExplorer.Proofs.View.Documents
import AsmExplorer.Proofs.View.Replay

/-!
# Hiding and showing the editors of a view

When the editors of a view are hidden the host drops their decorations, and when they are shown
again the view puts them back as a fresh view would.  The unused lines come back as they were,
unless a document has grown or shrunk since the view looked.  The selected lines come back exactly
if no source but the carrier of the last selection had one (`Scene.toggle_restores_iff`): a
selection leaves the lines of earlier ones on the other sources, and only the last one is shown
again (`Scene.selection_lost`).
-/

namespace AsmExplorer

namespace Synced

variable {s t : Synced}

theorem Marking.phase_eq (h : s.Marking t) : t.sync.phase = s.sync.phase := by
  cases h with
  | ignored => rfl
  | marked _ _ _ => rw [sync_revealAll, phase_putAll]
  | asked _ _ _ _ =>
    rw [sync_revealAll, phase_putAll]
    exact phase_putAll _

theorem freshScreen_congr (hgiven : t.given = s.given) (hunit : t.sync.unit = s.sync.unit)
    (hlast : t.sync.last = s.sync.last) (hvisible : t.visible = s.visible) :
    t.freshScreen = s.freshScreen := by
  have hsettings : t.sync.settings = s.sync.settings := congrArg Prod.snd hgiven
  rw [freshScreen, freshScreen, hvisible, hsettings, hunit, hlast]

theorem last_onVisibleEditorsChanged : s.onVisibleEditorsChanged.sync.last = s.sync.last := by
  have hlast := congrArg (·.sync.last) (rest_onVisibleEditorsChanged (s := s))
  exact hlast

end Synced

namespace Scene

variable {s : Scene} {events : List Event} {hidden shown : Host}

/-- The user hides editors and shows them again, and the view is told of both. -/
def hideAndShow (hidden shown : Host) : List Event :=
  [.host hidden, .command .visibleEditorsChanged, .host shown, .command .visibleEditorsChanged]

theorem Sound.hideAndShow (h : s.Sound)
    (horderly : s.Throughout Orderly (hideAndShow hidden shown))
    (hhidden : ({ s.view with host := hidden } : Synced).visible.isActive = false)
    (hactive : s.view.visible.isActive = true)
    (hshown : shown.visibleEditors = s.view.host.visibleEditors) :
    (s.afterAll [.host hidden, .command .visibleEditorsChanged]).view.sync.phase = .inactive ∧
      (s.afterAll (Scene.hideAndShow hidden shown)).view.sync.phase = .active ∧
      (s.afterAll (Scene.hideAndShow hidden shown)).screen = s.view.freshScreen := by
  obtain ⟨-, ho₁, ho₂, ho₃, -⟩ := horderly
  let gone := s.after (.host hidden)
  let back := (gone.after (.command .visibleEditorsChanged)).after (.host shown)
  have hback : back.Sound :=
    ((h.host hidden).command ho₁ .visibleEditorsChanged trivial ho₂).host shown
  have hinactive : gone.view.onVisibleEditorsChanged.sync.phase = .inactive := by
    cases hphase : gone.view.onVisibleEditorsChanged.sync.phase with
    | inactive => rfl
    | active =>
      have hactive' : gone.view.visible.isActive = true :=
        Synced.phase_onVisibleEditorsChanged_eq_active_iff.1 hphase
      exact absurd hactive' (by rw [show gone.view.visible.isActive = false from hhidden]; simp)
  -- the view has not changed otherwise
  have hgiven : back.view.given = s.view.given :=
    Synced.given_handle (s := gone.view) .visibleEditorsChanged
  have hunit : back.view.sync.unit = s.view.sync.unit :=
    Synced.unit_handle (s := gone.view) .visibleEditorsChanged
  have hlast : back.view.sync.last = s.view.sync.last :=
    Synced.last_onVisibleEditorsChanged (s := gone.view)
  have hvisible : back.view.visible = s.view.visible :=
    Synced.visible_congr (congrArg Prod.fst hgiven) hunit hshown
  have hactive' : back.view.visible.isActive = true := by rwa [hvisible]
  refine ⟨hinactive, Synced.phase_onVisibleEditorsChanged_eq_active_iff.2 hactive', ?_⟩
  rw [← Synced.freshScreen_congr hgiven hunit hlast hvisible]
  exact hback.sound.screen_activated ho₃.1 hinactive hactive'

theorem given_afterAll (s : Scene) (events : List Event) :
    (s.afterAll events).view.given = s.view.given := by
  induction events generalizing s with
  | nil => rfl
  | cons event events ih =>
    refine (ih _).trans ?_
    cases event with
    | command command => exact Synced.given_handle command
    | host _ => rfl

/-- After a selection that opened no editor, when the screen is that of a fresh view. -/
theorem Sound.freshScreen_eq_iff {change : SelectionChange} {unit : CompiledUnit} (h : s.Sound)
    (ho : s.Orderly) (hallowed : s.Allows (.command (.selection change)))
    (ho' : (s.after (.command (.selection change))).Orderly)
    (hattends : s.view.Attends change unit)
    (hdocument : unit.references change.editor.document = true ∨
      change.editor.document = s.view.sync.docs.assembly)
    (hself : unit.references s.view.sync.docs.assembly = false)
    (hnews : (s.after (.command (.selection change))).news = false) :
    let t := s.after (.command (.selection change))
    t.view.sync.phase = .active ∧
      (t.view.freshScreen = t.screen ↔
        (∀ id kind, kind ≠ .selected → t.screen id kind = t.view.freshMarks id kind) ∧
          unit.lines ≠ [] ∧ ∀ e ∈ t.view.visible.sources, t.screen e.id .selected ≠ [] →
            t.view.visible.carrier? unit t.view.sync.last = some e) := by
  intro t
  have ht : t.Sound := h.command ho (.selection change) hallowed ho'
  obtain ⟨hbefore, hplace⟩ := of_news_eq_false (by simp) hnews
  have hphase : t.view.sync.phase = .active :=
    (Synced.marking hallowed).phase_eq.trans hattends.active
  have hunit : t.view.sync.unit = some (.compiled unit) :=
    (Synced.unit_handle (.selection change)).trans
      (Synced.compiled?_eq_some_iff.1 hattends.compiled)
  obtain ⟨hvisible, hselected⟩ := (h.told hbefore).selected h.sound.tidy ho.1 ho.2 hattends hallowed
    hself hdocument ho'.1 hplace
  have hvisible' : t.view.visible = s.view.visible := hvisible
  rw [← hvisible'] at hselected
  exact ⟨hphase, ht.sound.freshScreen_eq_iff ho'.2 ((ht.told hnews).active hphase) hunit _
    hselected⟩

/-- **Hiding and showing the editors of a view restores its screen exactly if** the other marks than
selected lines are those of a fresh view, the listing has a line, and no visible editor of a source
has a selected line but the carrier of the last selection.

The scene is any that a run leads to of which the last event is a selection that the view attends
to, in an editor of a source or of the listing, which is not a source of itself.  In the run,
selections name visible editors, no two visible editors stand in the same place, and at most one
shows the listing; and in the end the view is not still to be told of a change.  The other marks
come back as those of a fresh view, and so as they were if the editors are as long as the view has
seen them. -/
theorem toggle_restores_iff (docs : ViewDocuments) (settings : SyncSettings) (host : Host)
    (events : List Event) (change : SelectionChange) (unit : CompiledUnit) (hidden shown : Host) :
    let start := initial docs settings host
    let before := start.afterAll events
    let s := before.after (.command (.selection change))
    let t := s.afterAll (hideAndShow hidden shown)
    start.AllowsAll (events ++ [.command (.selection change)]) →
    start.Throughout Orderly
      (events ++ .command (.selection change) :: hideAndShow hidden shown) →
    before.view.Attends change unit →
    (unit.references change.editor.document = true ∨ change.editor.document = docs.assembly) →
    unit.references docs.assembly = false →
    s.news = false →
    ({ s.view with host := hidden } : Synced).visible.isActive = false →
    shown.visibleEditors = s.view.host.visibleEditors →
    s.view.sync.phase = .active ∧
      (s.afterAll [.host hidden, .command .visibleEditorsChanged]).view.sync.phase = .inactive ∧
      t.view.sync.phase = .active ∧
      (∀ id kind, kind ≠ .selected → t.screen id kind = s.view.freshMarks id kind) ∧
      (s.Measured → ∀ id kind, kind ≠ .selected → t.screen id kind = s.screen id kind) ∧
      (t.screen = s.screen ↔
        (∀ id kind, kind ≠ .selected → s.screen id kind = s.view.freshMarks id kind) ∧
          unit.lines ≠ [] ∧ ∀ e ∈ s.view.visible.sources, s.screen e.id .selected ≠ [] →
            s.view.visible.carrier? unit s.view.sync.last = some e) := by
  intro start before s t hallowed horderly hattends hdocument hself hnews hhidden hshown
  obtain ⟨hallowed, hselection, -⟩ := allowsAll_append.1 hallowed
  obtain ⟨horderly, ho, horderly'⟩ := throughout_append.1 horderly
  have hbefore : before.Sound := (sound_initial docs settings host).afterAll hallowed horderly
  have hs : s.Sound := hbefore.command ho (.selection change) hselection horderly'.first
  have hdocs : before.view.sync.docs = docs := congrArg Prod.fst (given_afterAll start events)
  rw [← hdocs] at hdocument hself
  obtain ⟨hphase, hiff⟩ := hbefore.freshScreen_eq_iff ho hselection horderly'.first hattends
    hdocument hself hnews
  have htold := hs.told hnews
  have hactive : s.view.visible.isActive = true := htold.active hphase
  obtain ⟨hgone, hback, hscreen⟩ := hs.hideAndShow horderly' hhidden hactive hshown
  have hmarks : ∀ id kind, kind ≠ .selected → t.screen id kind = s.view.freshMarks id kind := by
    intro id kind hkind
    rw [hscreen, Synced.freshScreen_eq_freshMarks hactive hkind]
  refine ⟨hphase, hgone, hback, hmarks, fun hmeasured id kind hkind => ?_, ?_⟩
  · have hone : s.OneListing := horderly'.first.2
    rw [hmarks id kind hkind]
    exact (htold.marks_eq hone.sole hmeasured hphase hkind).symm
  · rw [hscreen]
    exact hiff

/-- The source, the header and the listing, all of them visible. -/
def allShown : Host :=
  showing [sourceEditor, headerEditor, listingEditor]

/-- No editor is visible. -/
def noneShown : Host :=
  { allShown with visible := [] }

/-- The selection of a line of the source. -/
def sourceChange : SelectionChange :=
  { editor := sourceEditor, line := 1, kind := some .mouse }

theorem attends_sourceChange :
    ((initial exampleDocs {} allShown).afterAll compiledRun).view.Attends sourceChange
      exampleUnit := by
  refine ⟨rfl, by decide +kernel, Synced.compiled?_eq_some_iff.2 ?_⟩
  rw [compiledRun, afterAll, afterAll, afterAll, view_command]
  exact Synced.unit_handle _

/-- A line of the source is selected, which has the only selected line among the sources, and it is
selected again after the editors were hidden and shown. -/
theorem selection_restored :
    let s := ((initial exampleDocs {} allShown).afterAll compiledRun).after
      (.command (.selection sourceChange))
    let t := s.afterAll (hideAndShow noneShown allShown)
    s.screen "source" .selected = [1] ∧ t.screen = s.screen := by
  intro s t
  obtain ⟨-, -, -, hmarks, hsame, hiff⟩ := toggle_restores_iff exampleDocs {} allShown compiledRun
    sourceChange exampleUnit noneShown allShown
    (by decide +kernel) (by decide +kernel) attends_sourceChange (.inl (by decide +kernel))
    (by decide +kernel) (by decide +kernel) (by decide +kernel) (by decide +kernel)
  refine ⟨by decide +kernel, hiff.2 ⟨fun id kind hkind => ?_, by decide +kernel, by decide +kernel⟩⟩
  rw [← hmarks id kind hkind, hsame (by decide +kernel) id kind hkind]

/-- **A selected line that is not restored.**  The source has a selected line when a line of the
header is selected, and has none after the editors were hidden and shown. -/
theorem selection_lost :
    let start := initial exampleDocs {} allShown
    let s := start.afterAll (compiledRun ++ [select headerEditor 0])
    let t := s.afterAll (hideAndShow noneShown allShown)
    start.AllowsAll (compiledRun ++ [select headerEditor 0]) ∧
      start.Throughout Orderly
        (compiledRun ++ select headerEditor 0 :: hideAndShow noneShown allShown) ∧
      s.view.sync.phase = .active ∧ s.view.compiled?.isSome = true ∧ s.news = false ∧
      noneShown.visibleEditors = [] ∧ allShown.visibleEditors = s.view.host.visibleEditors ∧
      t.news = false ∧
      s.screen "source" .selected = [0] ∧ t.screen "source" .selected = [] := by
  decide +kernel

end Scene

end AsmExplorer
