import AsmExplorer.Proofs.Cache.Phases
import Mathlib.Data.List.MinMax

/-!
# Runs of the compile cache in time

In a timed run every event comes with the time at which it happens.  Such a run is on time
(`OnTime`) if time does not go back, an invalidation happens at the time that it carries, and every
timer elapses exactly when it is due: it elapses at no other time, and time does not pass a timer
that has not elapsed.

Nothing is assumed about the order of events at one time, and a task may take any time to finish.

Timed runs need not stop: from any state on, the timers that are due up to any time can elapse one
after the other (`exists_elapses`).
-/

namespace AsmExplorer

/-- Events with their times. -/
abbrev TimedRun := List (Nat × CacheEvent)

/-- An event can happen at a time: an invalidation carries its time, and a timer elapses when it is
due. -/
def CacheEvent.HappensAt (time : Nat) : CacheEvent → Prop
  | .invalidate _ now => now = time
  | .elapse timer => timer.due = time
  | .get _ | .recompile _ | .dispose _ | .finish _ _ => True

/-- The time after a run that starts at a time. -/
def TimedRun.clock (now : Nat) : TimedRun → Nat
  | [] => now
  | (time, _) :: run => clock time run

/-- The events of a run. -/
def TimedRun.events (run : TimedRun) : List CacheEvent :=
  run.map Prod.snd

namespace CompileCache

/-- A run is possible from a time on, and every timer elapses when it is due. -/
def OnTime (c : CompileCache) (now : Nat) : TimedRun → Prop
  | [] => True
  | (time, event) :: run =>
    now ≤ time ∧ (∀ timer ∈ c.timers, time ≤ timer.due) ∧ c.Allows event ∧
      event.HappensAt time ∧ (c.after event).OnTime time run

/-- The times at which events of a kind happen; the kind may depend on the cache at that time. -/
def timesOf (kind : CompileCache → CacheEvent → Bool) (c : CompileCache) : TimedRun → List Nat
  | [] => []
  | (time, event) :: run =>
    if kind c event then time :: timesOf kind (c.after event) run
    else timesOf kind (c.after event) run

/-- No timer is overdue. -/
def Punctual (c : CompileCache) (now : Nat) : Prop :=
  ∀ timer ∈ c.timers, now ≤ timer.due

variable {c c' : CompileCache} {key : Uri} {event : CacheEvent} {ts : List CompileTask}
  {now time : Nat} {run later : TimedRun} {kind : CompileCache → CacheEvent → Bool}

/-! ### Runs in two parts -/

theorem clock_append : TimedRun.clock now (run ++ later) =
    TimedRun.clock (TimedRun.clock now run) later := by
  induction run generalizing now with
  | nil => rfl
  | cons p run ih => exact ih

theorem afterAll_events_append : c.afterAll (TimedRun.events (run ++ later)) =
    (c.afterAll run.events).afterAll later.events := by
  unfold TimedRun.events
  rw [List.map_append, afterAll_append]

theorem onTime_append : c.OnTime now (run ++ later) ↔
    c.OnTime now run ∧ (c.afterAll run.events).OnTime (run.clock now) later := by
  induction run generalizing c now with
  | nil => exact (iff_of_eq (true_and _)).symm
  | cons p run ih =>
    obtain ⟨time, event⟩ := p
    simp only [List.cons_append, OnTime, ih, and_assoc]
    rfl

theorem OnTime.allowsAll (h : c.OnTime now run) : c.AllowsAll run.events := by
  induction run generalizing c now with
  | nil => trivial
  | cons p run ih =>
    obtain ⟨-, -, ha, -, hrun⟩ := h
    exact ⟨ha, ih hrun⟩

theorem timesOf_append : timesOf kind c (run ++ later) =
    timesOf kind c run ++ timesOf kind (c.afterAll run.events) later := by
  induction run generalizing c with
  | nil => rfl
  | cons p run ih =>
    obtain ⟨time, event⟩ := p
    simp only [List.cons_append, timesOf, ih]
    split <;> rfl

/-! ### Timers that are due -/

theorem Step.debounce_eq (h : c.Step key event c' ts) : c'.debounce = c.debounce := by
  cases h with
  | recompiled | elapsed => unfold request; split <;> rfl
  | _ => rfl

theorem debounce_afterAll {debounce : Nat} {events : List CacheEvent}
    (h : (initial debounce).AllowsAll events) :
    ((initial debounce).afterAll events).debounce = debounce := by
  have hstep : ∀ (_ : List CacheMark) (c : CompileCache) (event : CacheEvent),
      c.Accounted ∧ c.debounce = debounce → c.Allows event →
        (c.after event).Accounted ∧ (c.after event).debounce = debounce := by
    rintro - c event ⟨hc, hd⟩ ha
    obtain ⟨_, hstep⟩ := hc.step_after ha
    exact ⟨hc.after ha, hstep.debounce_eq.trans hd⟩
  have hrun := record_induction (I := fun _ c => c.Accounted ∧ c.debounce = debounce) (h := [])
    hstep ⟨accounted_initial debounce, rfl⟩ h
  exact hrun.2

/-- A timer was set before, or an invalidation sets it. -/
theorem Step.mem_timers (h : c.Step key event c' ts) {timer : DebounceTimer}
    (ht : timer ∈ c'.timers) :
    timer ∈ c.timers ∨
      ∃ source time, event = .invalidate source time ∧ timer.due = time + c.debounce := by
  cases h with
  | invalidated =>
    obtain ht | ht := List.mem_append.1 ht
    · exact .inl ht
    · rw [List.mem_singleton] at ht
      exact .inr ⟨_, _, rfl, by rw [ht]; rfl⟩
  | elapsed =>
    rw [timers_request] at ht
    exact .inl (List.mem_of_mem_erase ht)
  | expired => exact .inl (List.mem_of_mem_erase ht)
  | recompiled =>
    rw [timers_request] at ht
    exact .inl ht
  | _ => exact .inl ht

theorem Punctual.after (h : c.Punctual time) (hc : c.Accounted) (ha : c.Allows event)
    (hat : event.HappensAt time) : (c.after event).Punctual time := by
  intro timer ht
  obtain ⟨_, hstep⟩ := hc.step_after ha
  obtain hold | ⟨source, time', rfl, hdue⟩ := hstep.mem_timers ht
  · exact h timer hold
  · have hnow : time' = time := hat
    rw [hdue, hnow]
    exact Nat.le_add_right time c.debounce

theorem OnTime.punctual (h : c.OnTime now run) (hc : c.Accounted) (hp : c.Punctual now) :
    Punctual (c.afterAll run.events) (run.clock now) := by
  induction run generalizing c now with
  | nil => exact hp
  | cons p run ih =>
    obtain ⟨-, hdue, ha, hat, hrun⟩ := h
    exact ih hrun (hc.after ha) (Punctual.after hdue hc ha hat)

theorem timers_after_elapse (timer : DebounceTimer) :
    (c.after (.elapse timer)).timers = c.timers.erase timer := by
  simp only [after, elapse]
  split
  · rfl
  · split
    · rw [timers_request]
    · rfl

/-- **Time can go on.**  From any state in which no timer is overdue, the timers that are due up to
some time can elapse, each when it is due. -/
theorem exists_elapses (bound : Nat) (hp : c.Punctual now) : ∃ later : TimedRun,
    (∀ p ∈ later, ∃ timer, p = (timer.due, .elapse timer)) ∧ c.OnTime now later ∧
      ∀ timer ∈ (c.afterAll later.events).timers, bound < timer.due := by
  -- by induction on the number of timers, of which the earliest elapses
  induction hlen : c.timers.length generalizing c now with
  | zero =>
    refine ⟨[], by simp, trivial, fun timer ht => ?_⟩
    rw [List.length_eq_zero_iff] at hlen
    have hmem : timer ∈ c.timers := ht
    simp [hlen] at hmem
  | succ n ih =>
    obtain ⟨first, hfirst⟩ : ∃ first, first ∈ c.timers.argmin DebounceTimer.due := by
      refine Option.isSome_iff_exists.1 (Option.ne_none_iff_isSome.1 fun hnone => ?_)
      rw [List.argmin_eq_none] at hnone
      simp [hnone] at hlen
    have hmem : first ∈ c.timers := List.argmin_mem hfirst
    have hmin : ∀ timer ∈ c.timers, first.due ≤ timer.due := fun timer ht =>
      List.le_of_mem_argmin ht hfirst
    by_cases hdue : bound < first.due
    · refine ⟨[], by simp, trivial, fun timer ht => ?_⟩
      exact Nat.lt_of_lt_of_le hdue (hmin timer ht)
    · have hlen' : (c.after (.elapse first)).timers.length = n := by
        rw [timers_after_elapse, List.length_erase_of_mem hmem, hlen]
        rfl
      have hp' : (c.after (.elapse first)).Punctual first.due := by
        intro timer ht
        rw [timers_after_elapse] at ht
        exact hmin timer (List.mem_of_mem_erase ht)
      obtain ⟨later, helapse, hrun, hafter⟩ := ih hp' hlen'
      refine ⟨(first.due, .elapse first) :: later, ?_, ?_, hafter⟩
      · exact List.forall_mem_cons.2 ⟨⟨first, rfl⟩, helapse⟩
      · exact ⟨hp first hmem, hmin, hmem, rfl, hrun⟩

/-! ### Runs that can be checked -/

instance (time : Nat) : (event : CacheEvent) → Decidable (event.HappensAt time)
  | .invalidate _ now => inferInstanceAs (Decidable (now = time))
  | .elapse timer => inferInstanceAs (Decidable (timer.due = time))
  | .get _ | .recompile _ | .dispose _ | .finish _ _ => .isTrue trivial

instance decidableOnTime (c : CompileCache) (now : Nat) :
    (run : TimedRun) → Decidable (c.OnTime now run)
  | [] => .isTrue trivial
  | (time, event) :: run =>
    have := decidableOnTime (c.after event) time run
    inferInstanceAs (Decidable (now ≤ time ∧ (∀ timer ∈ c.timers, time ≤ timer.due) ∧
      c.Allows event ∧ event.HappensAt time ∧ (c.after event).OnTime time run))

end CompileCache

end AsmExplorer
