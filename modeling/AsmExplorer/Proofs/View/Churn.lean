import AsmExplorer.Proofs.View.Replacement
import AsmExplorer.Proofs.View.Toggle
import Mathlib.Data.List.Induction

/-!
# Churn of the visible editors

While the user hides editors and shows them again, the view is told of the changes at any time: one
by one, several at once, or when all of them are over.  In the end the sign of loading and the
unused lines are as before, if the editors are as long as the view has seen them.  The selected
lines are put in place only when the view becomes active, and an editor that leaves the screen after
that loses them for good, though the view is told of it (`Scene.churn_restores_iff`,
`Scene.churn_loses_selection`).
-/

namespace AsmExplorer

namespace Scene

/-- The user changes the host, or the view is told of a change. -/
def Event.IsChurn : Event → Prop
  | .command told => told = .visibleEditorsChanged
  | .host _ => True

/-- An editor stays on the screen in its place during a run. -/
def Stays (id : String) : Scene → List Event → Prop
  | _, [] => True
  | s, .command command :: events => (s.after (.command command)).Stays id events
  | s, .host host :: events =>
    host.place? id = s.view.host.place? id ∧ (s.after (.host host)).Stays id events

instance decidableStays (id : String) (s : Scene) :
    (events : List Event) → Decidable (s.Stays id events)
  | [] => .isTrue trivial
  | .command command :: events => decidableStays id (s.after (.command command)) events
  | .host host :: events =>
    have := decidableStays id (s.after (.host host)) events
    inferInstanceAs (Decidable (host.place? id = s.view.host.place? id ∧
      (s.after (.host host)).Stays id events))

/-- The view is active. -/
def Active (s : Scene) : Prop :=
  s.view.sync.phase = .active

instance : DecidablePred Active :=
  fun s => inferInstanceAs (Decidable (s.view.sync.phase = .active))

/-- If the view knows of the latest change and has reason to be active, it is active. -/
def Awake (s : Scene) : Prop :=
  s.news = false → s.view.visible.isActive = true → s.Active

theorem Active.awake {s : Scene} (h : s.Active) : s.Awake :=
  fun _ _ => h

/-- Where a run has its last activation: the view becomes active at the end of the earlier part, if
there is any, and is active throughout the later part. -/
structure LastActivation (s : Scene) (events earlier later : List Event) : Prop where
  /-- The parts make up the run. -/
  split : events = earlier ++ later
  /-- The view becomes active when the earlier part ends. -/
  becomes : earlier = [] ∨ ∃ before, earlier = before ++ [.command .visibleEditorsChanged] ∧
    ¬(s.afterAll before).Active
  /-- The view is active throughout the later part. -/
  active : (s.afterAll earlier).Throughout Active later

variable {s : Scene} {events earlier later : List Event} {id : String}

/-! ### One event -/

/-- As long as the view stays active, being told of a change does not change the selected lines. -/
theorem Sound.screen_churn {event : Event} (h : s.Sound) (ho : s.Orderly) (hchurn : event.IsChurn)
    (hactive : s.Active) (hactive' : (s.after event).Active) :
    (s.after event).screen id .selected =
      if s.Stays id [event] then s.screen id .selected else [] := by
  cases event with
  | host host => simp [screen_host, Stays]
  | command command =>
    obtain rfl : command = .visibleEditorsChanged := hchurn
    have hvisible : s.view.visible.isActive = true :=
      Synced.phase_onVisibleEditorsChanged_eq_active_iff.1 hactive'
    rw [if_pos (by simp [Stays]), screen_command]
    have hscreen := h.sound.tidy.screen_renewed ho.1 hactive hvisible
    change s.view.onVisibleEditorsChanged.screen s.base id .selected = _
    rw [hscreen]
    exact Screen.putAll_of_forall_ne fun p hp hkind =>
      absurd hkind (VisibleSet.kind_of_mem_renewals hp)

theorem Awake.after {event : Event} (h : s.Awake) (hchurn : event.IsChurn) :
    (s.after event).Awake := by
  intro hnews hvisible
  cases event with
  | command command =>
    obtain rfl : command = .visibleEditorsChanged := hchurn
    rw [view_command] at hvisible
    have hbefore := Synced.visible_onVisibleEditorsChanged (s := s.view) ▸ hvisible
    exact Synced.phase_onVisibleEditorsChanged_eq_active_iff.2 hbefore
  | host host =>
    obtain ⟨hbefore, hplace⟩ := of_news_eq_false (by simp) hnews
    have hsame : (s.after (.host host)).view.visible.isActive = s.view.visible.isActive :=
      Synced.isActive_eq rfl rfl hplace
    exact h hbefore (hsame.symm.trans hvisible)

theorem stays_append {more : List Event} :
    s.Stays id (events ++ more) ↔ s.Stays id events ∧ (s.afterAll events).Stays id more := by
  induction events generalizing s with
  | nil => simp [Stays, afterAll]
  | cons event events ih =>
    cases event with
    | command command => simp [Stays, afterAll, ih]
    | host host => simp [Stays, afterAll, ih, and_assoc]

theorem stays_cons {event : Event} :
    s.Stays id (event :: events) ↔ s.Stays id [event] ∧ (s.after event).Stays id events := by
  have happend : s.Stays id ([event] ++ events) ↔ _ := stays_append
  exact happend

theorem Event.IsChurn.allows {event : Event} (h : event.IsChurn) : s.Allows event := by
  cases event with
  | command command =>
    cases h
    trivial
  | host host => trivial

theorem allowsAll_of_isChurn (h : ∀ event ∈ events, event.IsChurn) : s.AllowsAll events := by
  induction events generalizing s with
  | nil => trivial
  | cons event events ih =>
    obtain ⟨hevent, hevents⟩ := List.forall_mem_cons.1 h
    exact ⟨hevent.allows, ih hevents⟩

/-! ### Runs -/

/-- As long as the view stays active, the selected lines are lost on the editors that leave the
screen, and nowhere else. -/
theorem Sound.screen_stays (h : s.Sound) (hchurn : ∀ event ∈ later, event.IsChurn)
    (horderly : s.Throughout Orderly later) (hactive : s.Throughout Active later) :
    (s.afterAll later).screen id .selected =
      if s.Stays id later then s.screen id .selected else [] := by
  induction later generalizing s with
  | nil => rw [if_pos (by simp [Stays]), Scene.afterAll]
  | cons event later ih =>
    obtain ⟨hevent, hlater⟩ := List.forall_mem_cons.1 hchurn
    have hafter := h.after horderly.1 hevent.allows horderly.2.first
    rw [Scene.afterAll, ih hafter hlater horderly.2 hactive.2,
      h.screen_churn horderly.1 hevent hactive.1 hactive.2.first]
    by_cases hfirst : s.Stays id [event]
    · by_cases hrest : (s.after event).Stays id later
      · rw [if_pos hrest, if_pos hfirst, if_pos (stays_cons.2 ⟨hfirst, hrest⟩)]
      · rw [if_neg hrest, if_neg fun hboth => hrest (stays_cons.1 hboth).2]
    · rw [if_neg hfirst, ite_self, if_neg fun hboth => hfirst (stays_cons.1 hboth).1]

theorem exists_lastActivation (hactive : s.Active) (hchurn : ∀ event ∈ events, event.IsChurn)
    (hfinal : (s.afterAll events).Active) :
    ∃ earlier later, s.LastActivation events earlier later := by
  induction events using List.reverseRecOn with
  | nil => exact ⟨[], [], rfl, .inl rfl, hactive⟩
  | append_singleton events event ih =>
    by_cases hbefore : (s.afterAll events).Active
    · obtain ⟨earlier, later, hsplit, hbecomes, hthroughout⟩ :=
        ih (fun e he => hchurn e (List.mem_append_left _ he)) hbefore
      refine ⟨earlier, later ++ [event], by rw [hsplit, List.append_assoc], hbecomes, ?_⟩
      rw [hsplit, afterAll_append] at hbefore
      rw [hsplit, List.append_assoc, afterAll_append, afterAll_append] at hfinal
      exact throughout_append.2 ⟨hthroughout, hbefore, hfinal⟩
    · refine ⟨events ++ [event], [], (List.append_nil _).symm, .inr ⟨events, ?_, hbefore⟩, hfinal⟩
      cases event with
      | command command =>
        obtain rfl : command = .visibleEditorsChanged := hchurn (.command command) (by simp)
        rfl
      | host host =>
        rw [afterAll_append] at hfinal
        exact absurd hfinal hbefore

theorem Awake.afterAll (h : s.Awake) (hchurn : ∀ event ∈ events, event.IsChurn) :
    (s.afterAll events).Awake := by
  induction events generalizing s with
  | nil => exact h
  | cons event events ih =>
    obtain ⟨hevent, hevents⟩ := List.forall_mem_cons.1 hchurn
    exact ih (h.after hevent) hevents

theorem unit_last_churn (hchurn : ∀ event ∈ events, event.IsChurn) :
    (s.afterAll events).view.sync.unit = s.view.sync.unit ∧
      (s.afterAll events).view.sync.last = s.view.sync.last := by
  induction events generalizing s with
  | nil => exact ⟨rfl, rfl⟩
  | cons event events ih =>
    obtain ⟨hevent, hevents⟩ := List.forall_mem_cons.1 hchurn
    obtain ⟨hunit, hlast⟩ := ih (s := s.after event) hevents
    cases event with
    | command command =>
      obtain rfl : command = .visibleEditorsChanged := hevent
      exact ⟨hunit.trans (Synced.unit_handle .visibleEditorsChanged),
        hlast.trans Synced.last_onVisibleEditorsChanged⟩
    | host host => exact ⟨hunit, hlast⟩

/-- With the same editors of the view visible, a fresh view would show the same as before. -/
theorem freshScreen_churn (hchurn : ∀ event ∈ events, event.IsChurn)
    (hvisible : (s.afterAll events).view.visible = s.view.visible) :
    (s.afterAll events).view.freshScreen = s.view.freshScreen :=
  Synced.freshScreen_congr (given_afterAll s events) (unit_last_churn hchurn).1
    (unit_last_churn hchurn).2 hvisible

/-- Marks other than selected lines are as before, if the editors are as long in the end as the view
has seen them. -/
theorem Sound.screen_ne_selected (h : s.Sound) (hactive : s.Active) (hnews : s.news = false)
    (hfresh : s.screen = s.view.freshScreen) (hchurn : ∀ event ∈ events, event.IsChurn)
    (horderly : s.Throughout Orderly events) (hnews' : (s.afterAll events).news = false)
    (hvisible : (s.afterAll events).view.visible = s.view.visible)
    (hmeasured : (s.afterAll events).Measured) {kind : DecorationKind}
    (hkind : kind ≠ .selected) : (s.afterAll events).screen id kind = s.screen id kind := by
  have hbefore : s.view.visible.isActive = true := (h.told hnews).active hactive
  have hfinal := h.afterAll (allowsAll_of_isChurn hchurn) horderly
  have hactive' : (s.afterAll events).Active :=
    hactive.awake.afterAll hchurn hnews' (hvisible ▸ hbefore)
  have hone : (s.afterAll events).OneListing := horderly.last.2
  rw [hfresh, ← freshScreen_churn hchurn hvisible,
    Synced.freshScreen_eq_freshMarks (hvisible ▸ hbefore) hkind]
  exact (hfinal.told hnews').marks_eq hone.sole hmeasured hactive' hkind

/-- At the last activation the screen is that of a fresh view. -/
theorem Sound.screen_lastActivation (h : s.Sound) (hfresh : s.screen = s.view.freshScreen)
    (hchurn : ∀ event ∈ events, event.IsChurn) (horderly : s.Throughout Orderly events)
    (hlast : s.LastActivation events earlier later) :
    (s.afterAll earlier).screen = (s.afterAll earlier).view.freshScreen := by
  obtain ⟨rfl, rfl | ⟨before, rfl, hinactive⟩, hactive⟩ := hlast
  · exact hfresh
  · rw [List.append_assoc] at hchurn horderly
    obtain ⟨hbefore, ho, -⟩ := throughout_append.1 horderly
    have hsound := h.afterAll (allowsAll_of_isChurn fun e he =>
      hchurn e (List.mem_append_left _ he)) hbefore
    have hactive' := hactive.first
    rw [afterAll_append] at hactive' ⊢
    have hphase : (s.afterAll before).view.sync.phase = .inactive := by
      cases hphase : (s.afterAll before).view.sync.phase with
      | inactive => rfl
      | active => exact absurd hphase hinactive
    have hvisible := Synced.phase_onVisibleEditorsChanged_eq_active_iff.1 hactive'
    exact (hsound.sound.screen_activated ho.1 hphase hvisible).trans
      Synced.freshScreen_onVisibleEditorsChanged.symm

/-- **What churn of the visible editors leaves of the screen.**

The scene is any that a run leads to, in which the view is active, knows of the latest change and
shows what a fresh view would show.  Then the user changes the visible editors in any way, and the
view is told of the changes at any time; in the end it knows of the latest change, and the same
editors of the view are visible.  In the run and after it, no two visible editors stand in the same
place, and at most one shows the listing.

* The marks other than selected lines are as before, if the editors are as long in the end as the
  view has seen them.
* There was a last activation, possibly at the start, when the screen was that of a fresh view on
  the editors that were visible then.  The selected lines of that moment are left on the editors
  that have stayed on the screen since, and no others.
* So if the same editors were visible at the last activation, then the screen is as before exactly
  if the other marks are, and every editor with selected lines has stayed on the screen since. -/
theorem churn_restores_iff (docs : ViewDocuments) (settings : SyncSettings) (host : Host)
    (events churn : List Event) :
    let start := initial docs settings host
    let s := start.afterAll events
    let t := s.afterAll churn
    start.AllowsAll events →
    start.Throughout Orderly (events ++ churn) →
    s.Active → s.news = false → s.screen = s.view.freshScreen →
    (∀ event ∈ churn, event.IsChurn) →
    t.news = false → t.view.visible = s.view.visible →
    (t.Measured → ∀ id kind, kind ≠ .selected → t.screen id kind = s.screen id kind) ∧
      (∃ earlier later, s.LastActivation churn earlier later) ∧
      ∀ earlier later, s.LastActivation churn earlier later →
        let m := s.afterAll earlier
        m.screen = m.view.freshScreen ∧
          (∀ id, t.screen id .selected =
            if m.Stays id later then m.screen id .selected else []) ∧
          (m.view.visible = s.view.visible →
            (t.screen = s.screen ↔
              (∀ id kind, kind ≠ .selected → t.screen id kind = s.screen id kind) ∧
                ∀ id, s.screen id .selected ≠ [] → m.Stays id later)) := by
  intro start s t hallowed horderly hactive hnews hfresh hchurn hnews' hvisible
  obtain ⟨horderly, horderly'⟩ := throughout_append.1 horderly
  have hs : s.Sound := (sound_initial docs settings host).afterAll hallowed horderly
  have hactive' : t.Active :=
    hactive.awake.afterAll hchurn hnews' (hvisible ▸ (hs.told hnews).active hactive)
  refine ⟨fun hmeasured _ _ hkind => hs.screen_ne_selected hactive hnews hfresh hchurn horderly'
    hnews' hvisible hmeasured hkind, exists_lastActivation hactive hchurn hactive',
    fun earlier later hlast => ?_⟩
  intro m
  have hmfresh : m.screen = m.view.freshScreen :=
    hs.screen_lastActivation hfresh hchurn horderly' hlast
  obtain ⟨hsplit, -, hthroughout⟩ := hlast
  have hparts : ∀ event ∈ earlier ++ later, event.IsChurn := hsplit ▸ hchurn
  have hearlier : ∀ event ∈ earlier, event.IsChurn := fun e he =>
    hparts e (List.mem_append_left _ he)
  have hlater : ∀ event ∈ later, event.IsChurn := fun e he => hparts e (List.mem_append_right _ he)
  obtain ⟨ho, ho'⟩ := throughout_append.1 (hsplit ▸ horderly')
  have hm : m.Sound := hs.afterAll (allowsAll_of_isChurn hearlier) ho
  have hleft : ∀ id, t.screen id .selected =
      if m.Stays id later then m.screen id .selected else [] := by
    intro id
    have ht : t = m.afterAll later := by rw [← afterAll_append, ← hsplit]
    rw [ht]
    exact hm.screen_stays hlater ho' hthroughout
  refine ⟨hmfresh, hleft, fun hmvisible => ?_⟩
  have hms : m.screen = s.screen := by
    rw [hmfresh, hfresh]
    exact freshScreen_churn hearlier hmvisible
  constructor
  · intro heq
    refine ⟨fun _ _ _ => by rw [heq], fun id hne => ?_⟩
    by_contra hgone
    have hnil := hleft id
    rw [if_neg hgone, heq] at hnil
    exact hne hnil
  · rintro ⟨hsame, hstays⟩
    funext id kind
    by_cases hkind : kind = .selected
    · subst hkind
      rw [hleft, hms]
      split
      · rfl
      · exact (not_not.1 fun hne => ‹¬_› (hstays id hne)).symm
    · exact hsame id kind hkind

theorem Tidy.screen_eq_freshScreen (h : s.Tidy) (hd : s.Distinct) (hone : s.OneListing)
    (state : UnitState) : (s.after (.command (.unit state))).screen =
      (s.after (.command (.unit state))).view.freshScreen := by
  rw [h.screen_unit hd hone, view_command]
  exact Synced.freshScreen_onUnitChanged.symm

/-- The editors of the example, without the given one for a while, and the view is told of both
changes. -/
def absence (id : String) : List Event :=
  hideAndShow { allShown with visible := allShown.visible.erase id } allShown

theorem screen_compiledRun : ((initial exampleDocs {} allShown).afterAll compiledRun).screen =
    ((initial exampleDocs {} allShown).afterAll compiledRun).view.freshScreen := by
  have htidy : ((initial exampleDocs {} allShown).afterAll [.command .refresh]).Tidy :=
    tidy_afterAll exampleDocs {} allShown (by decide +kernel) (by decide +kernel)
  exact htidy.screen_eq_freshScreen (by decide +kernel) (by decide +kernel) _

/-- The header leaves the screen for a while, and all is as before: it has no selected line. -/
theorem screen_absence_header :
    let s := (initial exampleDocs {} allShown).afterAll compiledRun
    let t := s.afterAll (absence "header")
    s.screen "source" .selected = [0] ∧ s.screen "header" .unused = [1] ∧ t.screen = s.screen := by
  intro s t
  refine ⟨by decide +kernel, by decide +kernel, ?_⟩
  obtain ⟨hmarks, -, hall⟩ := churn_restores_iff exampleDocs {} allShown compiledRun
    (absence "header") (by decide +kernel) (by decide +kernel) (by decide +kernel)
    (by decide +kernel) screen_compiledRun (by simp [absence, hideAndShow, Event.IsChurn])
    (by decide +kernel) (by decide +kernel)
  obtain ⟨-, -, hiff⟩ := hall [] (absence "header") ⟨rfl, .inl rfl, by decide +kernel⟩
  have htidy : s.Tidy :=
    tidy_afterAll exampleDocs {} allShown (by decide +kernel) (by decide +kernel)
  have hone : s.OneListing := by decide +kernel
  refine (hiff rfl).2 ⟨hmarks (by decide +kernel), fun id hne => ?_⟩
  obtain ⟨e, he, rfl⟩ := htidy.exists_of_ne hone hne
  have hstays : ∀ e ∈ s.view.visible.editors, s.screen e.id .selected ≠ [] →
      s.Stays e.id (absence "header") := by decide +kernel
  exact hstays e he hne

/-- **A selected line that churn loses.** The source has a selected line and leaves the screen for a
while, or all editors do but the view is told only afterwards: the view is active all the time, and
the selected line does not come back. -/
theorem churn_loses_selection :
    let start := initial exampleDocs {} allShown
    let s := start.afterAll compiledRun
    s.screen = s.view.freshScreen ∧ s.Active ∧ s.view.compiled?.isSome = true ∧ s.news = false ∧
      s.screen "source" .selected = [0] ∧
      ∀ churn ∈ [absence "source", [.host noneShown, .host allShown,
          .command .visibleEditorsChanged, .command .visibleEditorsChanged]],
        let t := s.afterAll churn
        start.AllowsAll (compiledRun ++ churn) ∧
          start.Throughout Orderly (compiledRun ++ churn) ∧ t.news = false ∧
          t.view.host.visibleEditors = s.view.host.visibleEditors ∧
          t.screen "source" .selected = [] :=
  ⟨screen_compiledRun, by decide +kernel⟩

end Scene

end AsmExplorer
