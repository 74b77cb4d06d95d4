import AsmExplorer.Proofs.Cache.Clock
import AsmExplorer.Proofs.Cache.Requests

/-!
# A burst of invalidations is compiled once

Every invalidation sets a timer and makes a new generation, so a burst of invalidations leaves one
timer behind for each call.  Of these only the timer of the latest generation is heeded; there is at
most one such timer (`length_currentTimers_le`).

What an entry waits for is therefore given by one time or none, the one at which the timer of its
latest generation is due (`Waits`).  A call moves that time on, the timer itself ends the wait with
a request for a compilation, and no other event matters.  As long as calls are less than the quiet
period apart each of them comes before the time that the entry waits for, and the request comes when
the quiet period has passed after the last call (`burst_compiled_once`).
-/

namespace AsmExplorer

/-- The event invalidates the source of a view. -/
def CacheEvent.invalidates (key : Uri) : CacheEvent → Bool
  | .invalidate source _ => assemblyUri source = .ok key
  | _ => false

/-- The event is a call for the source of a view. -/
def CacheEvent.Calls (key : Uri) (event : CacheEvent) : Prop :=
  ∃ source, event.source? = some source ∧ assemblyUri source = .ok key

namespace CompileCache

/-- The timers of an entry that are of its latest generation. -/
def currentTimers (c : CompileCache) (key : Uri) (e : CacheEntry) : List DebounceTimer :=
  (c.timersOf key e.epoch).filter (·.generation = e.generation)

/-- The event requests a compilation of the source of a view: it is a call to compile the source
now, or the timer of the latest generation that elapses. -/
def requests (c : CompileCache) (key : Uri) : CacheEvent → Bool
  | .recompile source => assemblyUri source = .ok key
  | .elapse timer => timer.key = key ∧ ∃ e ∈ c.entry? key, timer ∈ c.currentTimers key e
  | _ => false

/-- The event starts a task of a view. -/
def startsTask (c : CompileCache) (key : Uri) (event : CacheEvent) : Bool :=
  (c.started event).any (·.key = key)

/-- The times at which the source of a view is invalidated. -/
def callTimes (key : Uri) (c : CompileCache) (run : TimedRun) : List Nat :=
  timesOf (fun _ => CacheEvent.invalidates key) c run

/-- The times at which a compilation of the source of a view is requested. -/
def requestTimes (key : Uri) (c : CompileCache) (run : TimedRun) : List Nat :=
  timesOf (fun c => c.requests key) c run

/-- The times at which a task of a view starts. -/
def startTimes (key : Uri) (c : CompileCache) (run : TimedRun) : List Nat :=
  timesOf (fun c => c.startsTask key) c run

/-- The only calls for the source of a view are invalidations. -/
def OnlyInvalidated (key : Uri) (run : TimedRun) : Prop :=
  ∀ p ∈ run, p.2.Calls key → p.2.invalidates key

/-- What an entry waits for: the timers of its latest generation are due at the given time, or there
are none.  No task is to follow the one in flight. -/
structure Waits (c : CompileCache) (key : Uri) (e : CacheEntry) (due : Option Nat) : Prop where
  /-- The entry is that of the view. -/
  entry : c.entry? key = some e
  /-- No task is to follow. -/
  rerun : e.rerun = false
  /-- The timer is due at that time. -/
  timers : (c.currentTimers key e).map DebounceTimer.due = due.toList

variable {c c' : CompileCache} {key : Uri} {e e' : CacheEntry} {event : CacheEvent}
  {ts : List CompileTask} {marks : List CacheMark} {due : Option Nat}

/-! ### The timers of the latest generation -/

theorem mem_currentTimers {timer : DebounceTimer} : timer ∈ c.currentTimers key e ↔
    timer ∈ c.timers ∧ timer.key = key ∧ timer.epoch = e.epoch ∧
      timer.generation = e.generation := by
  simp only [currentTimers, List.mem_filter, mem_timersOf, decide_eq_true_eq, and_assoc]

/-- **There is at most one timer of the latest generation.** -/
theorem Timed.length_currentTimers_le (h : c.Timed key e) :
    (c.currentTimers key e).length ≤ 1 := by
  have hnodup : ((c.currentTimers key e).map DebounceTimer.generation).Nodup :=
    h.nodup.sublist (List.filter_sublist.map _)
  have hall : ∀ g ∈ (c.currentTimers key e).map DebounceTimer.generation, g = e.generation := by
    intro g hg
    obtain ⟨timer, ht, rfl⟩ := List.mem_map.1 hg
    exact (mem_currentTimers.1 ht).2.2.2
  rw [List.eq_replicate_of_mem hall, List.nodup_replicate, List.length_map] at hnodup
  exact hnodup

theorem currentTimers_congr (ht : c'.timersOf key e'.epoch = c.timersOf key e.epoch)
    (hgen : e'.generation = e.generation) : c'.currentTimers key e' = c.currentTimers key e := by
  rw [currentTimers, currentTimers, ht, hgen]

theorem currentTimers_withoutTimer (timer : DebounceTimer) :
    (c.withoutTimer timer).currentTimers key e = (c.currentTimers key e).erase timer := by
  rw [currentTimers, timersOf_withoutTimer, currentTimers, List.erase_filter]

/-- After an invalidation the timer that it sets is the one of the latest generation. -/
theorem Timed.currentTimers_invalidate (h : c.Timed key e) (now : Nat) :
    ((c.withTimer (c.nextTimerFor key e now)).put key
        { e with generation := e.generation + 1, debouncing := true }).currentTimers key
      { e with generation := e.generation + 1, debouncing := true } =
        [c.nextTimerFor key e now] := by
  have htimers : ((c.withTimer (c.nextTimerFor key e now)).put key
      { e with generation := e.generation + 1, debouncing := true }).timersOf key e.epoch =
        c.timersOf key e.epoch ++ [c.nextTimerFor key e now] := by
    refine (timersOf_withTimer _ _).trans ?_
    exact congrArg _ (if_pos ⟨rfl, rfl⟩)
  have hold : (c.timersOf key e.epoch).filter (·.generation = e.generation + 1) = [] := by
    refine List.filter_eq_nil_iff.2 fun timer ht => ?_
    have hle := h.le timer ht
    simp only [decide_eq_true_eq]
    omega
  rw [currentTimers]
  dsimp only
  rw [htimers, List.filter_append, hold]
  simp [nextTimerFor]

/-! ### What an event does to an entry that waits -/

theorem Waits.eq_some_due (h : c.Waits key e due) {timer : DebounceTimer}
    (ht : timer ∈ c.currentTimers key e) (hle : (c.currentTimers key e).length ≤ 1) :
    c.currentTimers key e = [timer] ∧ due = some timer.due := by
  have hone : c.currentTimers key e = [timer] := by
    obtain ⟨t, heq⟩ := List.length_eq_one_iff.1 (Nat.le_antisymm hle (List.length_pos_of_mem ht))
    rw [heq, List.mem_singleton] at ht
    rw [heq, ht]
  have hdue := h.timers
  rw [hone, List.map_singleton] at hdue
  exact ⟨hone, by simpa using hdue.symm⟩

/-- An invalidation has the entry wait for the end of a new quiet period. -/
theorem Waits.invalidate (h : c.Waits key e due) (hc : AllClocked marks c) {source : Uri}
    (hk : assemblyUri source = .ok key) (now : Nat) :
    (c.after (.invalidate source now)).Waits key
      { e with generation := e.generation + 1, debouncing := true } (some (now + c.debounce)) := by
  have hafter : c.after (.invalidate source now) = (c.withTimer (c.nextTimerFor key e now)).put key
      { e with generation := e.generation + 1, debouncing := true } := by
    simp only [after, CompileCache.invalidate, hk, h.entry]
    rfl
  have htimed : c.Timed key e := (hc.entries key e h.entry).timed
  rw [hafter]
  refine ⟨entry?_put.trans (if_pos rfl), h.rerun, ?_⟩
  rw [htimed.currentTimers_invalidate now]
  rfl

/-- The timer of the latest generation ends the wait when it elapses.  If no task is in flight, one
is started. -/
theorem Waits.elapse (h : c.Waits key e due) (hc : AllClocked marks c) {timer : DebounceTimer}
    (ht : timer ∈ c.currentTimers key e) (hidle : e.inFlight = none) :
    c.startsTask key (.elapse timer) ∧
      ∃ e', (c.after (.elapse timer)).Waits key e' none := by
  obtain ⟨hmem, hk, hep, hgen⟩ := mem_currentTimers.1 ht
  have hle := (hc.entries key e h.entry).timed.length_currentTimers_le
  have hafter := after_elapse hk h.entry hep.symm hgen.symm
  have hstep : c.Step key (.elapse timer) (c.after (.elapse timer)) (c.requestTasks key e) :=
    hafter ▸ .elapsed hmem hk h.entry hep.symm hgen.symm
  constructor
  · rw [startsTask, hstep.started_eq hc.accounted.numbered, requestTasks, hidle]
    simp [nextTaskFor]
  · rw [hafter]
    refine ⟨_, entry?_request.trans (if_pos rfl), ?_, ?_⟩
    · simp [hidle]
    · have hnil : (c.withoutTimer timer).currentTimers key e = [] := by
        rw [currentTimers_withoutTimer, (h.eq_some_due ht hle).1, List.erase_cons_head]
      have htimers : ∀ e' : CacheEntry, e'.epoch = e.epoch → e'.generation = e.generation →
          ((c.withoutTimer timer).request key { e with debouncing := false }).currentTimers key e' =
            [] := by
        intro e' hep' hgen'
        rw [← hnil]
        refine currentTimers_congr ?_ hgen'
        rw [hep']
        simp only [timersOf, timers_request]
      rw [htimers _ (by simp [hidle]) (by simp [hidle])]
      rfl

/-- **No other event matters to an entry that waits.**  If no task is in flight, none will be. -/
theorem Step.waits (hstep : c.Step key event c' ts) (h : c.Waits key e due)
    (hcall : ¬event.Calls key) (hreq : c.requests key event = false) :
    ts = [] ∧ ∃ e', c'.Waits key e' due ∧ (e.inFlight = none → e'.inFlight = none) := by
  have hno : ∀ {source : Uri}, event.source? = some source → assemblyUri source = .ok key → False :=
    fun hs hk => hcall ⟨_, hs, hk⟩
  cases hstep with
  | refused => exact ⟨rfl, e, h, id⟩
  | answered hk | recompiled hk | untracked hk | invalidated hk | disposed hk =>
    exact (hno rfl hk).elim
  | created hev hk => obtain rfl | rfl := hev <;> exact (hno rfl hk).elim
  | elapsed ht hk he hep hgen =>
    -- this one is the timer of the latest generation
    have hcur : c.requests key (.elapse _) = true :=
      decide_eq_true ⟨hk, _, he, mem_currentTimers.2 ⟨ht, hk, hep.symm, hgen.symm⟩⟩
    simp [hcur] at hreq
  | @expired timer ht hk hold =>
    refine ⟨rfl, e, ⟨h.entry, h.rerun, ?_⟩, id⟩
    have hnot : timer ∉ c.currentTimers key e := fun hmem => by
      obtain ⟨-, -, hep, hgen⟩ := mem_currentTimers.1 hmem
      exact hold e h.entry hep.symm hgen.symm
    rw [currentTimers_withoutTimer, List.erase_of_not_mem hnot]
    exact h.timers
  | finished _ _ he =>
    rw [h.entry, Option.some.injEq] at he
    subst he
    exact ⟨rfl, _, ⟨entry?_put.trans (if_pos rfl), h.rerun, h.timers⟩, fun _ => rfl⟩
  | followed _ _ he _ hr =>
    rw [h.entry, Option.some.injEq] at he
    subst he
    simp [h.rerun] at hr
  | discarded => exact ⟨rfl, e, ⟨h.entry, h.rerun, h.timers⟩, id⟩

theorem Waits.after (h : c.Waits key e due) (hc : AllClocked marks c) (ha : c.Allows event)
    (hcall : ¬event.Calls key) (hreq : c.requests key event = false) :
    c.startsTask key event = false ∧
      ∃ e', (c.after event).Waits key e' due ∧ (e.inFlight = none → e'.inFlight = none) := by
  obtain ⟨key', hstep⟩ := hc.accounted.step_after ha
  by_cases hk : key = key'
  · subst hk
    obtain ⟨hnil, hwaits⟩ := hstep.waits h hcall hreq
    refine ⟨?_, hwaits⟩
    rw [startsTask, hnil]
    rfl
  · -- an event of another view
    have hsame := hstep.others hc.accounted.numbered hk
    constructor
    · rw [startsTask, List.any_eq_false]
      intro t ht
      obtain ⟨_, -, -, htk, -⟩ := hstep.entry_of_started ht
      simp [htk, Ne.symm hk]
    · refine ⟨e, ⟨hsame.entry.trans h.entry, h.rerun, ?_⟩, id⟩
      rw [currentTimers_congr (hsame.timers _) rfl]
      exact h.timers

/-! ### Runs -/

/-- In a run a compilation of the source of a view is requested once, at the given time, and a task
starts then; or this is still to come, and a timer is set for it. -/
def CompiledOnceAt (key : Uri) (c : CompileCache) (run : TimedRun) (due : Nat) : Prop :=
  startTimes key c run = requestTimes key c run ∧
    (requestTimes key c run = [due] ∨
      requestTimes key c run = [] ∧ ∃ timer ∈ (c.afterAll run.events).timers, timer.due = due)

variable {now time last prev w : Nat} {run : TimedRun} {kind : CompileCache → CacheEvent → Bool}

theorem OnTime.le_of_mem_timesOf (h : c.OnTime now run) (ht : time ∈ timesOf kind c run) :
    now ≤ time := by
  induction run generalizing c now with
  | nil => simp [timesOf] at ht
  | cons p run ih =>
    obtain ⟨time', event⟩ := p
    obtain ⟨hle, -, -, -, hrun⟩ := h
    have htail : time ∈ timesOf kind (c.after event) run → now ≤ time := fun ht =>
      Nat.le_trans hle (ih hrun ht)
    unfold timesOf at ht
    split at ht
    · obtain rfl | ht := List.mem_cons.1 ht
      · exact hle
      · exact htail ht
    · exact htail ht

theorem callTimes_cons_true (h : event.invalidates key = true) :
    callTimes key c ((time, event) :: run) = time :: callTimes key (c.after event) run :=
  if_pos h

theorem callTimes_cons_false (h : event.invalidates key = false) :
    callTimes key c ((time, event) :: run) = callTimes key (c.after event) run :=
  if_neg (by simp [h])

theorem not_calls_of_onlyInvalidated {p : Nat × CacheEvent} (h : OnlyInvalidated key (p :: run))
    (hinv : p.2.invalidates key = false) : ¬p.2.Calls key := by
  intro hcall
  have hinv' := h p List.mem_cons_self hcall
  simp [hinv] at hinv'

theorem Waits.exists_timer (h : c.Waits key e due) (hreq : c.requests key event = true)
    (hcall : ¬event.Calls key) :
    ∃ timer, event = .elapse timer ∧ timer ∈ c.currentTimers key e := by
  cases event with
  | recompile source => exact absurd ⟨source, rfl, of_decide_eq_true hreq⟩ hcall
  | elapse timer =>
    obtain ⟨-, e', he', hmem⟩ := of_decide_eq_true hreq
    obtain rfl : e = e' := Option.some.inj (h.entry.symm.trans he')
    exact ⟨timer, rfl, hmem⟩
  | get | invalidate | dispose | finish => simp [requests] at hreq

theorem Waits.requests_eq_false (h : c.Waits key e none) (hcall : ¬event.Calls key) :
    c.requests key event = false := by
  by_contra hreq
  obtain ⟨timer, -, hmem⟩ := h.exists_timer (by simpa using hreq) hcall
  have hnil : c.currentTimers key e = [] := List.map_eq_nil_iff.1 h.timers
  simp [hnil] at hmem

/-- Without calls nothing is requested for an entry that waits for nothing. -/
theorem Waits.quiet (h : c.Waits key e none) (hc : AllClocked marks c) (hrun : c.OnTime now run)
    (honly : OnlyInvalidated key run) (hcalls : callTimes key c run = []) :
    requestTimes key c run = [] ∧ startTimes key c run = [] := by
  induction run generalizing c e marks now with
  | nil => exact ⟨rfl, rfl⟩
  | cons p run ih =>
    obtain ⟨time, event⟩ := p
    obtain ⟨-, -, ha, -, hrun⟩ := hrun
    have hinv : event.invalidates key = false := by
      cases hinv : event.invalidates key with
      | false => rfl
      | true => simp [callTimes_cons_true hinv] at hcalls
    have hcall : ¬event.Calls key := not_calls_of_onlyInvalidated honly hinv
    have hreq : c.requests key event = false := h.requests_eq_false hcall
    obtain ⟨hstart, e', hwaits, -⟩ := h.after hc ha hcall hreq
    rw [callTimes_cons_false hinv] at hcalls
    have hrest := ih hwaits (hc.after ha) hrun (fun p hp => honly p (List.mem_cons_of_mem _ hp))
      hcalls
    simpa [requestTimes, startTimes, timesOf, hreq, hstart] using hrest

/-- An event that neither is a call nor requests a compilation can be left out of the account. -/
theorem CompiledOnceAt.cons (h : CompiledOnceAt key (c.after event) run last)
    (hreq : c.requests key event = false) (hstart : c.startsTask key event = false) :
    CompiledOnceAt key c ((time, event) :: run) last := by
  have hend : c.afterAll (TimedRun.events ((time, event) :: run)) =
      (c.after event).afterAll run.events := rfl
  rw [CompiledOnceAt, hend]
  simpa [CompiledOnceAt, requestTimes, startTimes, timesOf, hreq, hstart] using h

theorem Accounted.startsTask_invalidate (hc : c.Accounted) (source : Uri) (now : Nat) :
    c.startsTask key (.invalidate source now) = false := by
  rw [startsTask, hc.started_invalidate]
  rfl

/-- A call has the entry wait for the end of the quiet period after it, and requests nothing yet. -/
theorem Waits.called (h : c.Waits key e due) (hc : AllClocked marks c)
    (hinv : event.invalidates key = true) (hat : event.HappensAt time) :
    c.requests key event = false ∧ c.startsTask key event = false ∧
      ∃ e', (c.after event).Waits key e' (some (time + c.debounce)) ∧ e'.inFlight = e.inFlight := by
  cases event with
  | invalidate source time' =>
    obtain rfl : time' = time := hat
    exact ⟨rfl, hc.accounted.startsTask_invalidate source time', _,
      h.invalidate hc (of_decide_eq_true hinv) time', rfl⟩
  | get | recompile | dispose | elapse | finish => simp [CacheEvent.invalidates] at hinv

/-- When the quiet period after a call has passed, no call of the burst is left. -/
theorem OnTime.callTimes_eq_nil (hrun : c.OnTime now run) (hlate : prev + w ≤ now)
    (hchain : (prev :: callTimes key c run).IsChain fun s t => t < s + w) :
    callTimes key c run = [] := by
  by_contra hne
  obtain ⟨first, rest, hcons⟩ := List.exists_cons_of_ne_nil hne
  rw [hcons] at hchain
  have hlt : first < prev + w := (List.isChain_cons_cons.1 hchain).1
  have hmem : first ∈ callTimes key c run := by
    rw [hcons]
    exact List.mem_cons_self
  have hge : now ≤ first := hrun.le_of_mem_timesOf hmem
  omega

/-- **In a burst the wait ends once.**  An entry waits for the end of the quiet period after a call,
and each further call comes before that. -/
theorem Waits.armed (h : c.Waits key e (some (prev + w))) (hidle : e.inFlight = none)
    (hc : AllClocked marks c) (hw : c.debounce = w) (hrun : c.OnTime now run)
    (honly : OnlyInvalidated key run)
    (hchain : (prev :: callTimes key c run).IsChain fun s t => t < s + w)
    (hlast : (prev :: callTimes key c run).getLast? = some last) :
    CompiledOnceAt key c run (last + w) := by
  induction run generalizing c e marks now prev with
  | nil =>
    obtain rfl : prev = last := Option.some.inj hlast
    have hmem : prev + w ∈ (c.currentTimers key e).map DebounceTimer.due := by
      rw [h.timers]
      exact List.mem_singleton_self _
    obtain ⟨timer, ht, hdue⟩ := List.mem_map.1 hmem
    exact ⟨rfl, .inr ⟨rfl, timer, (mem_currentTimers.1 ht).1, hdue⟩⟩
  | cons p run ih =>
    obtain ⟨time, event⟩ := p
    obtain ⟨-, -, ha, hat, hrun⟩ := hrun
    obtain ⟨_, hstep⟩ := hc.accounted.step_after ha
    have hw' : (c.after event).debounce = w := hstep.debounce_eq.trans hw
    have honly' : OnlyInvalidated key run := fun p hp => honly p (List.mem_cons_of_mem _ hp)
    by_cases hinv : event.invalidates key = true
    · -- a call: the wait is for the end of the quiet period after it
      rw [callTimes_cons_true hinv] at hchain hlast
      obtain ⟨hreq, hstart, e', hwaits, hkeep⟩ := h.called hc hinv hat
      rw [hw] at hwaits
      have hrest := ih hwaits (hkeep.trans hidle) (hc.after ha) hw' hrun honly'
        (List.isChain_cons_cons.1 hchain).2 (by simpa using hlast)
      exact hrest.cons hreq hstart
    · have hinv' : event.invalidates key = false := by simpa using hinv
      have hcall : ¬event.Calls key := not_calls_of_onlyInvalidated honly hinv'
      rw [callTimes_cons_false hinv'] at hchain hlast
      by_cases hreq : c.requests key event = true
      · -- the timer: no call comes after it, for that would be too late
        obtain ⟨timer, rfl, hmem⟩ := h.exists_timer hreq hcall
        have hle := (hc.entries key e h.entry).timed.length_currentTimers_le
        have hdue : prev + w = time := by
          have hdue := (h.eq_some_due hmem hle).2
          rw [Option.some.injEq] at hdue
          exact hdue.trans hat
        have hnil : callTimes key (c.after (.elapse timer)) run = [] :=
          hrun.callTimes_eq_nil (Nat.le_of_eq hdue) hchain
        obtain rfl : prev = last := by
          rw [hnil] at hlast
          exact Option.some.inj hlast
        obtain ⟨hstart, e', hwaits⟩ := h.elapse hc hmem hidle
        obtain ⟨hrequests, hstarts⟩ := hwaits.quiet (hc.after ha) hrun honly' hnil
        have hnow : requestTimes key c ((time, .elapse timer) :: run) = [prev + w] := by
          rw [hdue, ← hrequests]
          exact if_pos hreq
        have hnow' : startTimes key c ((time, .elapse timer) :: run) = [prev + w] := by
          rw [hdue, ← hstarts]
          exact if_pos hstart
        exact ⟨hnow'.trans hnow.symm, .inl hnow⟩
      · have hreq' : c.requests key event = false := by simpa using hreq
        obtain ⟨hstart, e', hwaits, hkeep⟩ := h.after hc ha hcall hreq'
        have hrest := ih hwaits (hkeep hidle) (hc.after ha) hw' hrun honly' hchain hlast
        exact hrest.cons hreq' hstart

/-- **A burst on an idle entry is compiled once.** -/
theorem Waits.burst (h : c.Waits key e none) (hidle : e.inFlight = none)
    (hc : AllClocked marks c) (hw : c.debounce = w) (hrun : c.OnTime now run)
    (honly : OnlyInvalidated key run)
    (hchain : (callTimes key c run).IsChain fun s t => t < s + w)
    (hlast : (callTimes key c run).getLast? = some last) :
    CompiledOnceAt key c run (last + w) := by
  induction run generalizing c e marks now with
  | nil => cases hlast
  | cons p run ih =>
    obtain ⟨time, event⟩ := p
    obtain ⟨-, -, ha, hat, hrun⟩ := hrun
    obtain ⟨_, hstep⟩ := hc.accounted.step_after ha
    have hw' : (c.after event).debounce = w := hstep.debounce_eq.trans hw
    have honly' : OnlyInvalidated key run := fun p hp => honly p (List.mem_cons_of_mem _ hp)
    by_cases hinv : event.invalidates key = true
    · -- the first call of the burst
      rw [callTimes_cons_true hinv] at hchain hlast
      obtain ⟨hreq, hstart, e', hwaits, hkeep⟩ := h.called hc hinv hat
      rw [hw] at hwaits
      have hrest := hwaits.armed (hkeep.trans hidle) (hc.after ha) hw' hrun honly' hchain hlast
      exact hrest.cons hreq hstart
    · have hinv' : event.invalidates key = false := by simpa using hinv
      have hcall : ¬event.Calls key := not_calls_of_onlyInvalidated honly hinv'
      rw [callTimes_cons_false hinv'] at hchain hlast
      have hreq : c.requests key event = false := h.requests_eq_false hcall
      obtain ⟨hstart, e', hwaits, hkeep⟩ := h.after hc ha hcall hreq
      have hrest := ih hwaits (hkeep hidle) (hc.after ha) hw' hrun honly' hchain hlast
      exact hrest.cons hreq hstart

/-! ### The main result -/

/-- An idle entry without a timer waits for nothing. -/
theorem Accounted.waits_of_idle (hc : c.Accounted) (he : c.entry? key = some e)
    (hidle : e.phase = .idle) (htimer : ¬c.HasTimer key e) : c.Waits key e none := by
  have hnone : e.inFlight = none := (phase_eq_idle_iff.1 hidle).1
  have hrerun : e.rerun = false := by
    have hacc := (hc.entries key e he).rerun
    simpa [hnone] using hacc
  have hnil : c.currentTimers key e = [] := by
    refine List.eq_nil_iff_forall_not_mem.2 fun timer ht => htimer ?_
    exact ⟨timer, mem_currentTimers.1 ht⟩
  exact ⟨he, hrerun, by rw [hnil]; rfl⟩

/-- What only elapses is no call. -/
theorem onlyInvalidated_of_elapses {later : TimedRun}
    (h : ∀ p ∈ later, ∃ timer, p = (timer.due, .elapse timer)) : OnlyInvalidated key later := by
  rintro p hp ⟨source, hsource, -⟩
  obtain ⟨timer, rfl⟩ := h p hp
  cases hsource

theorem callTimes_of_elapses {later : TimedRun}
    (h : ∀ p ∈ later, ∃ timer, p = (timer.due, .elapse timer)) : callTimes key c later = [] := by
  induction later generalizing c with
  | nil => rfl
  | cons p later ih =>
    obtain ⟨hp, hlater⟩ := List.forall_mem_cons.1 h
    obtain ⟨timer, rfl⟩ := hp
    exact ih hlater

/-- **A burst comes to its end.**  From any point of it on, the timers can elapse until the
compilation is requested. -/
theorem Waits.exists_completion (h : c.Waits key e none) (hidle : e.inFlight = none)
    (hc : AllClocked marks c) (hw : c.debounce = w) (hrun : c.OnTime now run)
    (hp : Punctual (c.afterAll run.events) (run.clock now)) (honly : OnlyInvalidated key run)
    (hchain : (callTimes key c run).IsChain fun s t => t < s + w)
    (hlast : (callTimes key c run).getLast? = some last) :
    ∃ later : TimedRun, (∀ p ∈ later, ∃ timer, p = (timer.due, .elapse timer)) ∧
      c.OnTime now (run ++ later) ∧ requestTimes key c (run ++ later) = [last + w] ∧
      startTimes key c (run ++ later) = [last + w] := by
  obtain ⟨later, helapses, hlater, hafter⟩ := exists_elapses (last + w) hp
  have hall : c.OnTime now (run ++ later) := onTime_append.2 ⟨hrun, hlater⟩
  have hcalls : callTimes key c (run ++ later) = callTimes key c run := by
    have happend : callTimes key c (run ++ later) =
        callTimes key c run ++ callTimes key (c.afterAll run.events) later := timesOf_append
    rw [happend, callTimes_of_elapses helapses, List.append_nil]
  have honly' : OnlyInvalidated key (run ++ later) := by
    intro p hp
    obtain hp | hp := List.mem_append.1 hp
    · exact honly p hp
    · exact onlyInvalidated_of_elapses helapses p hp
  obtain ⟨hstarts, honce⟩ := h.burst hidle hc hw hall honly' (hcalls ▸ hchain) (hcalls ▸ hlast)
  have hdone : requestTimes key c (run ++ later) = [last + w] := by
    -- no timer is left that is due by then
    refine honce.resolve_right ?_
    rintro ⟨-, timer, ht, hdue⟩
    rw [afterAll_events_append] at ht
    exact absurd hdue (Nat.ne_of_gt (hafter timer ht))
  exact ⟨later, helapses, hall, hdone, hstarts.trans hdone⟩

/-- **A burst of invalidations is compiled once.**  Let timers elapse when they are due.  For every
idle entry that a run reaches and that has no timer of its latest generation, and for every burst of
invalidations of its source with less than the quiet period between one call and the next and no
other call for the source:

* a compilation is requested once, when the quiet period has passed after the last call, and not
  before; only if time has not gone on that far, it is still to be requested;
* a task starts when the compilation is requested, and at no other time;
* time can go on that far, by nothing but the elapse of timers.

In every state that a run reaches, be timers on time or not, a tracked source has at most one timer
of its epoch and latest generation. -/
theorem burst_compiled_once (debounce : Nat) :
    (∀ (before burst : TimedRun) (key : Uri) (e : CacheEntry) (last : Nat),
      (initial debounce).OnTime 0 (before ++ burst) →
      let c := (initial debounce).afterAll before.events
      c.entry? key = some e → e.phase = .idle → ¬c.HasTimer key e →
      OnlyInvalidated key burst →
      ((callTimes key c burst).IsChain fun s t => t < s + debounce) →
      (callTimes key c burst).getLast? = some last →
        (requestTimes key c burst = [last + debounce] ∨
          requestTimes key c burst = [] ∧
            TimedRun.clock 0 (before ++ burst) ≤ last + debounce) ∧
        startTimes key c burst = requestTimes key c burst ∧
        ∃ later : TimedRun, (∀ p ∈ later, ∃ timer, p = (timer.due, .elapse timer)) ∧
          (initial debounce).OnTime 0 (before ++ (burst ++ later)) ∧
          requestTimes key c (burst ++ later) = [last + debounce] ∧
          startTimes key c (burst ++ later) = [last + debounce]) ∧
    ∀ events : List CacheEvent, (initial debounce).AllowsAll events →
      ∀ key e, entry? ((initial debounce).afterAll events) key = some e →
        (currentTimers ((initial debounce).afterAll events) key e).length ≤ 1 := by
  constructor
  · intro before burst key e last hrun c he hidle htimer honly hchain hlast
    obtain ⟨hbefore, hburst⟩ := onTime_append.1 hrun
    have hc : AllClocked _ c := allClocked_afterAll hbefore.allowsAll
    have hwaits : c.Waits key e none := hc.accounted.waits_of_idle he hidle htimer
    have hnone : e.inFlight = none := (phase_eq_idle_iff.1 hidle).1
    have hw : c.debounce = debounce := debounce_afterAll hbefore.allowsAll
    have hp : c.Punctual (before.clock 0) :=
      hbefore.punctual (accounted_initial debounce) (by simp [Punctual, initial])
    have hp' := hburst.punctual hc.accounted hp
    obtain ⟨hstarts, honce⟩ := hwaits.burst hnone hc hw hburst honly hchain hlast
    refine ⟨?_, hstarts, ?_⟩
    · obtain hdone | ⟨hnil, timer, ht, hdue⟩ := honce
      · exact .inl hdone
      · refine .inr ⟨hnil, ?_⟩
        rw [← hdue, clock_append]
        exact hp' timer ht
    · obtain ⟨later, helapses, hall, hrequests, hstarts'⟩ :=
        hwaits.exists_completion hnone hc hw hburst hp' honly hchain hlast
      exact ⟨later, helapses, onTime_append.2 ⟨hbefore, hall⟩, hrequests, hstarts'⟩
  · intro events h key e he
    have hc : AllClocked _ ((initial debounce).afterAll events) := allClocked_afterAll h
    exact (hc.entries key e he).timed.length_currentTimers_le

/-- A source is compiled. -/
def idleRun : TimedRun :=
  [(0, .get exampleSource), (10, .finish (exampleTask 0 0) (.failed default))]

/-- It is invalidated twice, the second time before the timer of the first call elapses. -/
def burstRun : TimedRun :=
  [(20, .invalidate exampleSource 20), (70, .invalidate exampleSource 70),
    (120, .elapse { due := 120, key := exampleView, epoch := 0, generation := 1 }),
    (170, .elapse { due := 170, key := exampleView, epoch := 0, generation := 2 }),
    (180, .finish (exampleTask 1 0) (.failed default))]

/-- The two calls have the source compiled once, and no timer is left. -/
theorem requestTimes_burstRun :
    let c := (initial 100).afterAll idleRun.events
    callTimes exampleView c burstRun = [20, 70] ∧ requestTimes exampleView c burstRun = [170] ∧
      ∀ e, entry? ((initial 100).afterAll idleRun.events) exampleView = some e →
        (currentTimers ((initial 100).afterAll idleRun.events) exampleView e).length ≤ 1 := by
  intro c
  obtain ⟨hburst, htimers⟩ := burst_compiled_once 100
  have hcalls : callTimes exampleView c burstRun = [20, 70] := by decide +kernel
  obtain ⟨e, he, hidle, htimer⟩ : ∃ e ∈ c.entry? exampleView,
      e.phase = .idle ∧ ¬c.HasTimer exampleView e := by decide +kernel
  have honly : OnlyInvalidated exampleView burstRun := by
    rintro p hp ⟨source, hsource, -⟩
    simp only [burstRun, List.mem_cons, List.not_mem_nil, or_false] at hp
    obtain rfl | rfl | rfl | rfl | rfl := hp
    · exact decide_eq_true assemblyUri_exampleSource
    · exact decide_eq_true assemblyUri_exampleSource
    · cases hsource
    · cases hsource
    · cases hsource
  obtain ⟨honce, -⟩ := hburst idleRun burstRun exampleView e 70 (by decide +kernel) he hidle htimer
    honly (by rw [hcalls]; simp) (by rw [hcalls]; rfl)
  refine ⟨hcalls, honce.resolve_right fun hlate => ?_,
    htimers idleRun.events (by decide +kernel) exampleView⟩
  exact absurd hlate.2 (by decide)

end CompileCache

end AsmExplorer
