import AsmExplorer.CompileCache
import Mathlib.Data.List.Nodup

/-!
# Steps of the compile cache

A cache changes by *events*: somebody calls it (`get`, `invalidate`, `recompile`, `dispose`), a
timer elapses, a task finishes.  `CompileCache.after` is the cache after an event, and `Allows` says
which events are possible: calls come at any time, but only a timer that is set elapses and only a
task that runs finishes.  Nothing is assumed about their order.

What an event can do is said once, by the relation `CompileCache.Step`, which has one constructor
for every outcome and names the tasks that are started.  `CompileCache.step_after` is its inversion
lemma; the invariants of the other modules are case analyses over it and do not look into the
operations again.

Everything an event does concerns one view.  The entry of a view, its tasks (`tasksOf`) and its
timers (`timersOf`) are untouched by the events of other views (`Step.others`).
-/

namespace AsmExplorer

/-- What can happen to a cache. -/
inductive CacheEvent where
  /-- The unit of a source is asked for. -/
  | get (source : Uri)
  /-- A source is invalidated at a time. -/
  | invalidate (source : Uri) (now : Nat)
  /-- A source is to be compiled again now. -/
  | recompile (source : Uri)
  /-- A source is forgotten. -/
  | dispose (source : Uri)
  /-- A timer elapses. -/
  | elapse (timer : DebounceTimer)
  /-- A task finishes with a listing or a failure; a task that broke down has failed. -/
  | finish (task : CompileTask) (state : UnitState)

/-- The source that a call is about. -/
def CacheEvent.source? : CacheEvent → Option Uri
  | .get source | .invalidate source _ | .recompile source | .dispose source => some source
  | _ => none

namespace CompileCache

/-- Calls are possible at any time; only a timer that is set elapses, and only a task that runs
finishes. -/
def Allows (c : CompileCache) : CacheEvent → Prop
  | .elapse timer => timer ∈ c.timers
  | .finish task _ => task ∈ c.running
  | _ => True

/-- The cache after an event. -/
def after (c : CompileCache) : CacheEvent → CompileCache
  | .get source => (c.getOrCompile source).1
  | .invalidate source now => c.invalidate source now
  | .recompile source => c.recompile source
  | .dispose source => c.dispose source
  | .elapse timer => c.elapse timer
  | .finish task state => (c.finish task state).1

/-- The tasks that an event starts: those that are numbered from the present next number on. -/
def started (c : CompileCache) (event : CacheEvent) : List CompileTask :=
  (c.after event).running.filter fun t => c.nextTask ≤ t.id

/-! ### Tasks and timers of an entry -/

/-- The running tasks of an entry. -/
def tasksOf (c : CompileCache) (key : Uri) (epoch : Nat) : List CompileTask :=
  c.running.filter fun t => t.key = key ∧ t.epoch = epoch

/-- The timers of an entry that have not elapsed. -/
def timersOf (c : CompileCache) (key : Uri) (epoch : Nat) : List DebounceTimer :=
  c.timers.filter fun t => t.key = key ∧ t.epoch = epoch

/-- A timer of the entry's epoch and latest generation has not elapsed. -/
def HasTimer (c : CompileCache) (key : Uri) (e : CacheEntry) : Prop :=
  ∃ t ∈ c.timers, t.key = key ∧ t.epoch = e.epoch ∧ t.generation = e.generation

/-- The task that would be started for an entry. -/
def nextTaskFor (c : CompileCache) (key : Uri) (e : CacheEntry) : CompileTask :=
  { id := c.nextTask, key, source := e.source, epoch := e.epoch }

variable {c c' : CompileCache} {key key' : Uri} {e e' : CacheEntry}

theorem mem_tasksOf {epoch : Nat} {t : CompileTask} :
    t ∈ c.tasksOf key epoch ↔ t ∈ c.running ∧ t.key = key ∧ t.epoch = epoch := by
  simp [tasksOf]

theorem mem_timersOf {epoch : Nat} {t : DebounceTimer} :
    t ∈ c.timersOf key epoch ↔ t ∈ c.timers ∧ t.key = key ∧ t.epoch = epoch := by
  simp [timersOf]

theorem hasTimer_iff :
    c.HasTimer key e ↔ ∃ t ∈ c.timersOf key e.epoch, t.generation = e.generation := by
  simp only [HasTimer, mem_timersOf, and_assoc]

/-! ### Look-up -/

theorem lookup_cons_eq_ite (k : Uri) (old : CacheEntry) (l : List (Uri × CacheEntry)) :
    ((k, old) :: l).lookup key = if key = k then some old else l.lookup key := by
  by_cases h : key = k
  · subst h; simp
  · simp [List.lookup_cons, beq_false_of_ne h, h]

theorem lookup_putIn (key key' : Uri) (e : CacheEntry) (l : List (Uri × CacheEntry)) :
    (putIn key e l).lookup key' = if key' = key then some e else l.lookup key' := by
  induction l with
  | nil => simp only [putIn, lookup_cons_eq_ite, List.lookup_nil]
  | cons p l ih =>
    obtain ⟨k, old⟩ := p
    by_cases hk : k = key
    · subst hk
      simp only [putIn, ↓reduceIte, lookup_cons_eq_ite]
      split <;> rfl
    · simp only [putIn, hk, ↓reduceIte, lookup_cons_eq_ite, ih]
      by_cases h : key' = k
      · subst h; simp only [hk, ↓reduceIte]
      · simp only [h, ↓reduceIte]

theorem lookup_filter_ne (key key' : Uri) (l : List (Uri × CacheEntry)) :
    (l.filter (·.1 != key)).lookup key' = if key' = key then none else l.lookup key' := by
  induction l with
  | nil => simp
  | cons p l ih =>
    obtain ⟨k, old⟩ := p
    by_cases hk : k = key
    · subst hk
      simp only [List.filter_cons, bne_self_eq_false, Bool.false_eq_true, ↓reduceIte, ih,
        lookup_cons_eq_ite]
      split <;> rfl
    · have hk' : (k != key) = true := by simpa using hk
      simp only [List.filter_cons, hk', ↓reduceIte, lookup_cons_eq_ite, ih]
      by_cases h : key' = k
      · subst h; simp only [hk, ↓reduceIte]
      · simp only [h, ↓reduceIte]

@[simp] theorem entry?_put :
    entry? (c.put key e) key' = if key' = key then some e else c.entry? key' :=
  lookup_putIn key key' e c.entries

@[simp] theorem running_put : (c.put key e).running = c.running := rfl

@[simp] theorem timers_put : (c.put key e).timers = c.timers := rfl

@[simp] theorem entry?_start : entry? (c.start key e) key' =
    if key' = key then some { e with rerun := false, inFlight := some c.nextTask }
    else c.entry? key' :=
  lookup_putIn key key' _ c.entries

@[simp] theorem running_start :
    (c.start key e).running = c.running ++ [c.nextTaskFor key e] := rfl

@[simp] theorem timers_start : (c.start key e).timers = c.timers := rfl

@[simp] theorem running_request : (c.request key e).running =
    c.running ++ if e.inFlight.isSome then [] else [c.nextTaskFor key e] := by
  unfold request; split <;> simp

@[simp] theorem timers_request : (c.request key e).timers = c.timers := by
  unfold request; split <;> rfl

@[simp] theorem nextEpoch_request : (c.request key e).nextEpoch = c.nextEpoch := by
  unfold request; split <;> rfl

@[simp] theorem entry?_request : entry? (c.request key e) key' =
    if key' = key then
      some (if e.inFlight.isSome then { e with rerun := true }
        else { e with rerun := false, inFlight := some c.nextTask })
    else c.entry? key' := by
  unfold request; split <;> simp

theorem request_entry (h : entry? (c.request key e) key = some e') :
    e'.epoch = e.epoch ∧ e'.generation = e.generation ∧ e'.debouncing = e.debouncing := by
  rw [entry?_request, if_pos rfl, Option.some.injEq] at h
  subst h
  split <;> exact ⟨rfl, rfl, rfl⟩

/-! ### Steps -/

/-- The timer that an invalidation of an entry sets. -/
def nextTimerFor (c : CompileCache) (key : Uri) (e : CacheEntry) (now : Nat) : DebounceTimer :=
  { due := now + c.debounce, key, epoch := e.epoch, generation := e.generation + 1 }

/-- The cache when a timer is set. -/
def withTimer (c : CompileCache) (timer : DebounceTimer) : CompileCache :=
  { c with timers := c.timers ++ [timer] }

/-- The cache when a timer has elapsed. -/
def withoutTimer (c : CompileCache) (timer : DebounceTimer) : CompileCache :=
  { c with timers := c.timers.erase timer }

/-- The cache when a task has finished. -/
def withoutTask (c : CompileCache) (task : CompileTask) : CompileCache :=
  { c with running := c.running.filter (·.id != task.id) }

/-- The cache when the next epoch is taken. -/
def takeEpoch (c : CompileCache) : CompileCache :=
  { c with nextEpoch := c.nextEpoch + 1 }

/-- The entry of a source that was not tracked. -/
def newEntry (c : CompileCache) (source : Uri) : CacheEntry :=
  { source, epoch := c.nextEpoch }

/-- The tasks that a request for an entry starts: none if one is under way. -/
def requestTasks (c : CompileCache) (key : Uri) (e : CacheEntry) : List CompileTask :=
  if e.inFlight.isSome then [] else [c.nextTaskFor key e]

/-- **What an event does**: the view that it concerns, the cache afterwards, and the tasks that it
starts. -/
inductive Step (c : CompileCache) (key : Uri) :
    CacheEvent → CompileCache → List CompileTask → Prop where
  /-- A call for a source that can have no assembly view changes nothing. -/
  | refused {event : CacheEvent} {source : Uri} {fault : DocumentFault} :
      event.source? = some source → assemblyUri source = .error fault → Step c key event c []
  /-- The unit of a tracked source is asked for; it is stored or under way. -/
  | answered {source : Uri} {e : CacheEntry} :
      assemblyUri source = .ok key → c.entry? key = some e → Step c key (.get source) c []
  /-- A source becomes tracked and is compiled. -/
  | created {event : CacheEvent} {source : Uri} :
      event = .get source ∨ event = .recompile source → assemblyUri source = .ok key →
      c.entry? key = none →
      Step c key event (c.takeEpoch.start key (c.newEntry source))
        [c.nextTaskFor key (c.newEntry source)]
  /-- A tracked source is to be compiled now. -/
  | recompiled {source : Uri} {e : CacheEntry} :
      assemblyUri source = .ok key → c.entry? key = some e →
      Step c key (.recompile source) (c.request key { e with debouncing := false })
        (c.requestTasks key e)
  /-- An invalidation of a source that is not tracked changes nothing. -/
  | untracked {source : Uri} {now : Nat} :
      assemblyUri source = .ok key → c.entry? key = none → Step c key (.invalidate source now) c []
  /-- A tracked source is invalidated, and a timer of a new generation is set. -/
  | invalidated {source : Uri} {now : Nat} {e : CacheEntry} :
      assemblyUri source = .ok key → c.entry? key = some e →
      Step c key (.invalidate source now)
        ((c.withTimer (c.nextTimerFor key e now)).put key
          { e with generation := e.generation + 1, debouncing := true }) []
  /-- A source is forgotten. -/
  | disposed {source : Uri} :
      assemblyUri source = .ok key →
      Step c key (.dispose source) { c with entries := c.entries.filter (·.1 != key) } []
  /-- The timer of the latest invalidation elapses. -/
  | elapsed {timer : DebounceTimer} {e : CacheEntry} :
      timer ∈ c.timers → timer.key = key → c.entry? key = some e → e.epoch = timer.epoch →
      e.generation = timer.generation →
      Step c key (.elapse timer)
        ((c.withoutTimer timer).request key { e with debouncing := false }) (c.requestTasks key e)
  /-- A timer elapses that is out of date. -/
  | expired {timer : DebounceTimer} :
      timer ∈ c.timers → timer.key = key →
      (∀ e, c.entry? key = some e → e.epoch = timer.epoch → e.generation ≠ timer.generation) →
      Step c key (.elapse timer) (c.withoutTimer timer) []
  /-- A task finishes and none is to follow. -/
  | finished {task : CompileTask} {state : UnitState} {e : CacheEntry} :
      task ∈ c.running → task.key = key → c.entry? key = some e → e.epoch = task.epoch →
      e.rerun = false →
      Step c key (.finish task state)
        ((c.withoutTask task).put key
          { e with outcome := some { task := task.id, state }, inFlight := none }) []
  /-- A task finishes and the next one is started. -/
  | followed {task : CompileTask} {state : UnitState} {e : CacheEntry} :
      task ∈ c.running → task.key = key → c.entry? key = some e → e.epoch = task.epoch →
      e.rerun = true →
      Step c key (.finish task state)
        ((c.withoutTask task).start key
          { e with outcome := some { task := task.id, state }, inFlight := none })
        [c.nextTaskFor key e]
  /-- A task finishes whose entry is gone. -/
  | discarded {task : CompileTask} {state : UnitState} :
      task ∈ c.running → task.key = key →
      (∀ e, c.entry? key = some e → e.epoch ≠ task.epoch) →
      Step c key (.finish task state) (c.withoutTask task) []

/-- In every entry a unit is stored or under way. -/
def Settled (c : CompileCache) : Prop :=
  ∀ key e, c.entry? key = some e → e.outcome.isSome ∨ e.inFlight.isSome

theorem exists_step_get (h : c.Settled) (source : Uri) :
    ∃ key ts, c.Step key (.get source) (c.after (.get source)) ts := by
  simp only [after, getOrCompile]
  cases hkey : assemblyUri source with
  | error fault => exact ⟨source, _, .refused rfl hkey⟩
  | ok key =>
    cases he : c.entry? key with
    | none =>
      simp only [track, he]
      exact ⟨key, _, .created (.inl rfl) hkey he⟩
    | some e =>
      have hs := h key e he
      simp only [track, he]
      split
      · exact ⟨key, _, .answered hkey he⟩
      · exact ⟨key, _, .answered hkey he⟩
      · -- an entry with neither would not be settled
        rename_i h₁ h₂; simp [h₁, h₂] at hs

theorem after_recompile {source : Uri} (hk : assemblyUri source = .ok key)
    (he : c.entry? key = some e) :
    c.after (.recompile source) = c.request key { e with debouncing := false } := by
  simp only [after, recompile, hk, track, he]

theorem exists_step_recompile (source : Uri) :
    ∃ key ts, c.Step key (.recompile source) (c.after (.recompile source)) ts := by
  cases hkey : assemblyUri source with
  | error fault =>
    simp only [after, recompile, hkey]
    exact ⟨source, _, .refused rfl hkey⟩
  | ok key =>
    cases he : c.entry? key with
    | none =>
      simp only [after, recompile, hkey, track, he]
      exact ⟨key, _, .created (.inr rfl) hkey he⟩
    | some e =>
      rw [after_recompile hkey he]
      exact ⟨key, _, .recompiled hkey he⟩

/-- The timer of the latest invalidation requests a compilation. -/
theorem after_elapse {timer : DebounceTimer} (hk : timer.key = key) (he : c.entry? key = some e)
    (hep : e.epoch = timer.epoch) (hgen : e.generation = timer.generation) :
    c.after (.elapse timer) =
      (c.withoutTimer timer).request key { e with debouncing := false } := by
  subst hk
  simp only [after, elapse]
  split
  · rename_i h
    simp [show c.entry? timer.key = none from h] at he
  · rename_i e' h
    obtain rfl : e' = e := Option.some.inj (Eq.trans h.symm he)
    rw [if_pos ⟨hep, hgen⟩]
    rfl

theorem exists_step_elapse {timer : DebounceTimer} (h : timer ∈ c.timers) :
    ∃ ts, c.Step timer.key (.elapse timer) (c.after (.elapse timer)) ts := by
  by_cases hcur : ∃ e, c.entry? timer.key = some e ∧ e.epoch = timer.epoch ∧
      e.generation = timer.generation
  · obtain ⟨e, he, hep, hgen⟩ := hcur
    rw [after_elapse rfl he hep hgen]
    exact ⟨_, .elapsed h rfl he hep hgen⟩
  · have hold : ∀ e, c.entry? timer.key = some e → e.epoch = timer.epoch →
        e.generation ≠ timer.generation := fun e he hep hgen => hcur ⟨e, he, hep, hgen⟩
    refine ⟨[], ?_⟩
    have hafter : c.after (.elapse timer) = c.withoutTimer timer := by
      simp only [after, elapse]
      split
      · rfl
      · rename_i e he
        rw [if_neg fun h => hold e he h.1 h.2]
        rfl
    rw [hafter]
    exact .expired h rfl hold

theorem exists_step_finish {task : CompileTask} (h : task ∈ c.running) (state : UnitState) :
    ∃ ts, c.Step task.key (.finish task state) (c.after (.finish task state)) ts := by
  simp only [after, finish]
  split
  · rename_i he
    exact ⟨_, .discarded h rfl fun e h' => by simp [show c.entry? task.key = none from he] at h'⟩
  · rename_i e he
    replace he : c.entry? task.key = some e := he
    split
    · rename_i hep
      by_cases hr : e.rerun = true
      · rw [if_pos hr]
        exact ⟨_, .followed h rfl he hep hr⟩
      · rw [if_neg hr]
        exact ⟨_, .finished h rfl he hep (by simpa using hr)⟩
    · rename_i hep
      refine ⟨_, .discarded h rfl fun e' he' hep' => hep ?_⟩
      rw [he, Option.some.injEq] at he'
      exact he' ▸ hep'

theorem exists_step (hs : c.Settled) {event : CacheEvent} (h : c.Allows event) :
    ∃ key ts, c.Step key event (c.after event) ts := by
  cases event with
  | get source => exact exists_step_get hs source
  | recompile source => exact exists_step_recompile source
  | elapse timer => exact ⟨_, exists_step_elapse h⟩
  | finish task state => exact ⟨_, exists_step_finish h state⟩
  | invalidate source now =>
    simp only [after, invalidate]
    cases hkey : assemblyUri source with
    | error fault => exact ⟨source, _, .refused rfl hkey⟩
    | ok key =>
      cases he : c.entry? key with
      | none => simp only [he]; exact ⟨key, _, .untracked hkey he⟩
      | some e => simp only [he]; exact ⟨key, _, .invalidated hkey he⟩
  | dispose source =>
    simp only [after, dispose]
    cases hkey : assemblyUri source with
    | error fault => exact ⟨source, _, .refused rfl hkey⟩
    | ok key => exact ⟨key, _, .disposed hkey⟩

/-! ### What a step starts -/

/-- Tasks are told apart by their numbers. -/
structure Numbered (c : CompileCache) : Prop where
  /-- All numbers are below the next one. -/
  fresh : ∀ t ∈ c.running, t.id < c.nextTask
  /-- No two tasks that run have the same number. -/
  nodup : (c.running.map CompileTask.id).Nodup

/-- A step starts no task or one, which gets the next number and is for the view concerned. -/
theorem Step.tasks_eq {event : CacheEvent} {ts : List CompileTask} (h : c.Step key event c' ts) :
    ts = [] ∨ ∃ e, ts = [c.nextTaskFor key e] := by
  cases h with
  | created => exact .inr ⟨_, rfl⟩
  | followed => exact .inr ⟨_, rfl⟩
  | recompiled | elapsed =>
    unfold requestTasks
    split
    · exact .inl rfl
    · exact .inr ⟨_, rfl⟩
  | _ => exact .inl rfl

theorem Step.running_eq {event : CacheEvent} {ts : List CompileTask}
    (h : c.Step key event c' ts) : ∃ old, old.Sublist c.running ∧ c'.running = old ++ ts := by
  have hdrop : ∀ task : CompileTask, (c.withoutTask task).running.Sublist c.running :=
    fun _ => List.filter_sublist
  cases h with
  | created => exact ⟨_, .refl _, running_start⟩
  | followed => exact ⟨_, hdrop _, running_start⟩
  | recompiled => exact ⟨_, .refl _, running_request⟩
  | elapsed => exact ⟨_, .refl _, running_request⟩
  | finished => exact ⟨_, hdrop _, (List.append_nil _).symm⟩
  | discarded => exact ⟨_, hdrop _, (List.append_nil _).symm⟩
  | _ => exact ⟨_, .refl _, (List.append_nil _).symm⟩

theorem Step.nextTask_eq {event : CacheEvent} {ts : List CompileTask}
    (h : c.Step key event c' ts) : c'.nextTask = c.nextTask + ts.length := by
  cases h with
  | recompiled | elapsed => unfold request requestTasks; split <;> rfl
  | _ => rfl

theorem Step.numbered {event : CacheEvent} {ts : List CompileTask} (h : c.Step key event c' ts)
    (hn : c.Numbered) : c'.Numbered := by
  obtain ⟨old, hsub, hrun⟩ := h.running_eq
  have hnext := h.nextTask_eq
  have hold : ∀ t ∈ old, t.id < c.nextTask := fun t ht => hn.fresh t (hsub.subset ht)
  have hnodup : (old.map CompileTask.id).Nodup := hn.nodup.sublist (hsub.map _)
  obtain rfl | ⟨e, rfl⟩ := h.tasks_eq
  · rw [List.append_nil] at hrun
    exact ⟨fun t ht => hnext ▸ hold t (hrun ▸ ht), hrun ▸ hnodup⟩
  · -- the new task has a number that no other task has
    refine ⟨fun t ht => ?_, ?_⟩
    · rw [hrun, List.mem_append, List.mem_singleton] at ht
      rw [hnext, List.length_singleton]
      obtain ht | rfl := ht
      · exact Nat.lt_succ_of_lt (hold t ht)
      · exact Nat.lt_succ_self _
    · rw [hrun, List.map_append, List.map_singleton]
      refine hnodup.append (List.nodup_singleton _) fun i hi hi' => ?_
      obtain ⟨t, ht, rfl⟩ := List.mem_map.1 hi
      exact absurd (hold t ht) (by simp [List.mem_singleton.1 hi', nextTaskFor])

theorem Step.started_eq {event : CacheEvent} {ts : List CompileTask}
    (h : c.Step key event (c.after event) ts) (hn : c.Numbered) : c.started event = ts := by
  obtain ⟨old, hsub, hrun⟩ := h.running_eq
  have hold : old.filter (fun t => c.nextTask ≤ t.id) = [] := by
    refine List.filter_eq_nil_iff.2 fun t ht => ?_
    simpa using hn.fresh t (hsub.subset ht)
  rw [started, hrun, List.filter_append, hold, List.nil_append]
  obtain rfl | ⟨e, rfl⟩ := h.tasks_eq
  · rfl
  · simp [nextTaskFor]

/-- **Every possible event is a step.** -/
theorem step_after (hs : c.Settled) (hn : c.Numbered) {event : CacheEvent} (h : c.Allows event) :
    ∃ key, c.Step key event (c.after event) (c.started event) := by
  obtain ⟨key, ts, hstep⟩ := exists_step hs h
  exact ⟨key, (hstep.started_eq hn).symm ▸ hstep⟩

/-! ### Other views -/

/-- The entry of a view, its tasks and its timers are the same in both caches. -/
structure SameAt (c c' : CompileCache) (key : Uri) : Prop where
  /-- The entry is the same. -/
  entry : c'.entry? key = c.entry? key
  /-- The tasks are the same. -/
  tasks : ∀ epoch, c'.tasksOf key epoch = c.tasksOf key epoch
  /-- The timers are the same. -/
  timers : ∀ epoch, c'.timersOf key epoch = c.timersOf key epoch

theorem tasksOf_start (epoch : Nat) : (c.start key e).tasksOf key' epoch =
    c.tasksOf key' epoch ++ if key = key' ∧ e.epoch = epoch then [c.nextTaskFor key e] else [] := by
  simp only [tasksOf, running_start, List.filter_append, List.filter_singleton]
  by_cases h : key = key' ∧ e.epoch = epoch <;> simp [nextTaskFor, h]

theorem tasksOf_request (epoch : Nat) : (c.request key e).tasksOf key' epoch =
    c.tasksOf key' epoch ++ if key = key' ∧ e.epoch = epoch then c.requestTasks key e else [] := by
  unfold request requestTasks
  split
  · simp [tasksOf]
  · exact tasksOf_start epoch

theorem tasksOf_withoutTask (task : CompileTask) (epoch : Nat) :
    (c.withoutTask task).tasksOf key epoch =
      (c.tasksOf key epoch).filter (·.id != task.id) := by
  simp only [tasksOf, withoutTask, List.filter_filter, Bool.and_comm]

theorem mem_running_withoutTask (hn : c.Numbered) {task t : CompileTask} (ht : task ∈ c.running) :
    t ∈ (c.withoutTask task).running ↔ t ∈ c.running ∧ t ≠ task := by
  simp only [withoutTask, List.mem_filter, bne_iff_ne]
  refine and_congr_right fun hmem => not_congr ⟨fun hid => ?_, fun h => h ▸ rfl⟩
  exact List.inj_on_of_nodup_map hn.nodup hmem ht hid

theorem tasksOf_withoutTask_of_ne (hn : c.Numbered) {task : CompileTask} (ht : task ∈ c.running)
    {epoch : Nat} (hne : key ≠ task.key ∨ epoch ≠ task.epoch) :
    (c.withoutTask task).tasksOf key epoch = c.tasksOf key epoch := by
  rw [tasksOf_withoutTask]
  refine List.filter_eq_self.2 fun t ht' => ?_
  rw [mem_tasksOf] at ht'
  have hmem : t ∈ (c.withoutTask task).running := by
    refine (mem_running_withoutTask hn ht).2 ⟨ht'.1, ?_⟩
    rintro rfl
    exact hne.elim (fun h => h ht'.2.1.symm) fun h => h ht'.2.2.symm
  exact (List.mem_filter.1 hmem).2

theorem timersOf_withoutTimer (timer : DebounceTimer) (epoch : Nat) :
    (c.withoutTimer timer).timersOf key epoch = (c.timersOf key epoch).erase timer :=
  List.erase_filter.symm

theorem timersOf_withTimer (timer : DebounceTimer) (epoch : Nat) :
    (c.withTimer timer).timersOf key epoch =
      c.timersOf key epoch ++ if timer.key = key ∧ timer.epoch = epoch then [timer] else [] := by
  simp only [timersOf, withTimer, List.filter_append, List.filter_singleton]
  simp

theorem timersOf_withoutTimer_of_ne {timer : DebounceTimer} (hne : key ≠ timer.key)
    (epoch : Nat) : (c.withoutTimer timer).timersOf key epoch = c.timersOf key epoch := by
  rw [timersOf_withoutTimer]
  exact List.erase_of_not_mem fun h => hne (mem_timersOf.1 h).2.1.symm

theorem hasTimer_congr (ht : c'.timersOf key e'.epoch = c.timersOf key e.epoch)
    (hgen : e'.generation = e.generation) : c'.HasTimer key e' ↔ c.HasTimer key e := by
  rw [hasTimer_iff, hasTimer_iff, ht, hgen]

theorem hasTimer_withoutTimer_iff {timer : DebounceTimer}
    (hold : e.epoch = timer.epoch → e.generation ≠ timer.generation) :
    (c.withoutTimer timer).HasTimer key e ↔ c.HasTimer key e := by
  rw [hasTimer_iff, hasTimer_iff, timersOf_withoutTimer]
  refine exists_congr fun t => and_congr_left fun hgen => ⟨List.mem_of_mem_erase, fun ht => ?_⟩
  refine (List.mem_erase_of_ne ?_).2 ht
  rintro rfl
  exact hold (mem_timersOf.1 ht).2.2.symm hgen.symm

/-- **A step leaves all other views alone.** -/
theorem Step.others {event : CacheEvent} {ts : List CompileTask} (h : c.Step key event c' ts)
    (hn : c.Numbered) (hne : key' ≠ key) : c.SameAt c' key' := by
  have hlookup : ∀ l : List (Uri × CacheEntry),
      (l.filter (·.1 != key)).lookup key' = l.lookup key' := fun l => by
    rw [lookup_filter_ne, if_neg hne]
  have hne' : ¬key = key' := Ne.symm hne
  -- the entry, the tasks and the timers are each filtered by the view
  cases h with
  | refused | answered | untracked => exact ⟨rfl, fun _ => rfl, fun _ => rfl⟩
  | created =>
    refine ⟨by simp only [entry?_start, hne, ↓reduceIte]; rfl, fun epoch => ?_, fun _ => rfl⟩
    simp only [tasksOf_start, hne', false_and, ↓reduceIte, List.append_nil]; rfl
  | recompiled =>
    refine ⟨by simp only [entry?_request, hne, ↓reduceIte], fun epoch => ?_, fun epoch => ?_⟩
    · simp only [tasksOf_request, hne', false_and, ↓reduceIte, List.append_nil]
    · simp only [timersOf, timers_request]
  | invalidated =>
    refine ⟨by simp only [entry?_put, hne, ↓reduceIte]; rfl, fun _ => rfl, fun epoch => ?_⟩
    exact (timersOf_withTimer _ _).trans
      (by simp only [nextTimerFor, hne', false_and, ↓reduceIte, List.append_nil])
  | disposed => exact ⟨hlookup c.entries, fun _ => rfl, fun _ => rfl⟩
  | elapsed _ hk =>
    refine ⟨by simp only [entry?_request, hne, ↓reduceIte]; rfl, fun epoch => ?_, fun epoch => ?_⟩
    · simp only [tasksOf_request, hne', false_and, ↓reduceIte, List.append_nil]; rfl
    · simp only [timersOf, timers_request]
      exact timersOf_withoutTimer_of_ne (hk ▸ hne) epoch
  | expired _ hk =>
    exact ⟨rfl, fun _ => rfl, timersOf_withoutTimer_of_ne (hk ▸ hne)⟩
  | finished ht hk =>
    exact ⟨by simp only [entry?_put, hne, ↓reduceIte]; rfl,
      fun _ => tasksOf_withoutTask_of_ne hn ht (.inl (hk ▸ hne)), fun _ => rfl⟩
  | followed ht hk =>
    refine ⟨by simp only [entry?_start, hne, ↓reduceIte]; rfl, fun epoch => ?_, fun _ => rfl⟩
    simp only [tasksOf_start, hne', false_and, ↓reduceIte, List.append_nil]
    exact tasksOf_withoutTask_of_ne hn ht (.inl (hk ▸ hne))
  | discarded ht hk =>
    exact ⟨rfl, fun _ => tasksOf_withoutTask_of_ne hn ht (.inl (hk ▸ hne)), fun _ => rfl⟩

end CompileCache

end AsmExplorer
