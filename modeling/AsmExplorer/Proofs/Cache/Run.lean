import AsmExplorer.Proofs.Cache.Step

/-!
# Runs of the compile cache

A run is a list of events, each of which the cache allows when it comes.  What a run leaves on
record is a list of *marks*, the latest first: the calls that ask for another compilation, and the
tasks that start and finish.

* `CompileCache.afterAll` : the cache after a run; `AllowsAll` : the run is possible.
* `CompileCache.record` : the marks of a run.
* `CompileCache.record_induction` : what holds of a cache and its record, and is kept by every
  event, holds after every run.
-/

namespace AsmExplorer

/-- What is put on record. -/
inductive CacheMark where
  /-- The source of a view was invalidated. -/
  | invalidated (key : Uri)
  /-- The source of a view was to be compiled now. -/
  | recompiled (key : Uri)
  /-- A task started. -/
  | started (task : CompileTask)
  /-- A task finished. -/
  | finished (task : CompileTask) (state : UnitState)

/-- What an event itself puts on record; a call is on record whether or not the source is
tracked. -/
def CacheEvent.mark? : CacheEvent → Option CacheMark
  | .invalidate source _ => (assemblyUri source).toOption.map .invalidated
  | .recompile source => (assemblyUri source).toOption.map .recompiled
  | .finish task state => some (.finished task state)
  | _ => none

namespace CacheMark

/-- The mark is a call that asks for another compilation of the source of a view. -/
def Requests (key : Uri) (m : CacheMark) : Prop :=
  m = .invalidated key ∨ m = .recompiled key

/-- The mark is the start of a task for an entry. -/
def Starts (key : Uri) (epoch : Nat) (m : CacheMark) : Prop :=
  ∃ t, m = .started t ∧ t.key = key ∧ t.epoch = epoch

end CacheMark

namespace CompileCache

/-- What an event puts on record.  The tasks that it starts come after the event itself. -/
def marks (c : CompileCache) (event : CacheEvent) : List CacheMark :=
  (c.started event).map .started ++ event.mark?.toList

/-- The cache after a run. -/
def afterAll (c : CompileCache) : List CacheEvent → CompileCache
  | [] => c
  | event :: events => (c.after event).afterAll events

/-- A run is possible. -/
def AllowsAll (c : CompileCache) : List CacheEvent → Prop
  | [] => True
  | event :: events => c.Allows event ∧ (c.after event).AllowsAll events

/-- What a run puts on record, the latest first. -/
def record (c : CompileCache) : List CacheEvent → List CacheMark
  | [] => []
  | event :: events => (c.after event).record events ++ c.marks event

/-- A cache in which nothing has happened yet. -/
def initial (debounce : Nat) : CompileCache := { debounce }

variable {c c' : CompileCache} {key : Uri} {event : CacheEvent} {ts : List CompileTask}

/-! ### Runs -/

theorem afterAll_append (events later : List CacheEvent) :
    c.afterAll (events ++ later) = (c.afterAll events).afterAll later := by
  induction events generalizing c with
  | nil => rfl
  | cons event events ih => exact ih

theorem record_append (events later : List CacheEvent) :
    c.record (events ++ later) = (c.afterAll events).record later ++ c.record events := by
  induction events generalizing c with
  | nil => exact (List.append_nil _).symm
  | cons event events ih =>
    simp only [List.cons_append, record, afterAll, ih, List.append_assoc]

theorem allowsAll_append {events later : List CacheEvent} :
    c.AllowsAll (events ++ later) ↔ c.AllowsAll events ∧ (c.afterAll events).AllowsAll later := by
  induction events generalizing c with
  | nil => simp [AllowsAll, afterAll]
  | cons event events ih => simp only [List.cons_append, AllowsAll, afterAll, ih, and_assoc]

/-- **Induction over runs.**  What holds of a cache and its record, and is kept by every possible
event, is kept by every run. -/
theorem record_induction {I : List CacheMark → CompileCache → Prop}
    (hstep : ∀ h c event, I h c → c.Allows event → I (c.marks event ++ h) (c.after event))
    {h : List CacheMark} {events : List CacheEvent} (h₀ : I h c) (hrun : c.AllowsAll events) :
    I (c.record events ++ h) (c.afterAll events) := by
  induction events generalizing c h with
  | nil => exact h₀
  | cons event events ih =>
    rw [record, List.append_assoc]
    exact ih (hstep h c event h₀ hrun.1) hrun.2

/-! ### Marks -/

theorem not_requests_started {t : CompileTask} : ¬(CacheMark.started t).Requests key := by
  rintro (h | h) <;> cases h

theorem not_requests_of_mem_started {m : CacheMark} (hm : m ∈ ts.map .started) :
    ¬m.Requests key := by
  obtain ⟨t, -, rfl⟩ := List.mem_map.1 hm
  exact not_requests_started

theorem not_starts_of_mark {m : CacheMark} {epoch : Nat} (h : event.mark? = some m) :
    ¬m.Starts key epoch := by
  rintro ⟨t, rfl, -, -⟩
  cases event <;> simp [CacheEvent.mark?] at h

theorem mark?_eq_none_of_refused {source : Uri} {fault : DocumentFault}
    (hs : event.source? = some source) (hf : assemblyUri source = .error fault) :
    event.mark? = none := by
  cases event <;> cases hs <;> simp [CacheEvent.mark?, hf, Except.toOption]

theorem mark?_recompile {source : Uri} (hk : assemblyUri source = .ok key) :
    (CacheEvent.recompile source).mark? = some (.recompiled key) := by
  rw [CacheEvent.mark?, hk]; rfl

theorem mark?_invalidate {source : Uri} {now : Nat} (hk : assemblyUri source = .ok key) :
    (CacheEvent.invalidate source now).mark? = some (.invalidated key) := by
  rw [CacheEvent.mark?, hk]; rfl

theorem eq_of_requests_recompiled {key' : Uri} (h : (CacheMark.recompiled key).Requests key') :
    key' = key := by
  obtain h | h := h <;> cases h
  rfl

theorem eq_of_requests_invalidated {key' : Uri} (h : (CacheMark.invalidated key).Requests key') :
    key' = key := by
  obtain h | h := h <;> cases h
  rfl

theorem not_requests_finished {task : CompileTask} {state : UnitState} :
    ¬(CacheMark.finished task state).Requests key := by
  rintro (h | h) <;> cases h

theorem not_requests_finish {task : CompileTask} {state : UnitState} :
    ∀ m ∈ (CacheEvent.finish task state).mark?.toList, ¬m.Requests key := by
  intro m hm
  rw [CacheEvent.mark?, Option.toList_some, List.mem_singleton] at hm
  exact hm ▸ not_requests_finished

/-- An event puts calls on record only for the view that it concerns. -/
theorem Step.eq_of_requests {key' : Uri} (h : c.Step key event c' ts) {m : CacheMark}
    (hm : event.mark? = some m) (hreq : m.Requests key') : key' = key := by
  cases h with
  | refused hs hf => simp [mark?_eq_none_of_refused hs hf] at hm
  | answered => simp [CacheEvent.mark?] at hm
  | created hev hk =>
    obtain rfl | rfl := hev
    · simp [CacheEvent.mark?] at hm
    · rw [mark?_recompile hk, Option.some.injEq] at hm
      exact eq_of_requests_recompiled (hm ▸ hreq)
  | recompiled hk =>
    rw [mark?_recompile hk, Option.some.injEq] at hm
    exact eq_of_requests_recompiled (hm ▸ hreq)
  | untracked hk | invalidated hk =>
    rw [mark?_invalidate hk, Option.some.injEq] at hm
    exact eq_of_requests_invalidated (hm ▸ hreq)
  | disposed | elapsed | expired => simp [CacheEvent.mark?] at hm
  | finished | followed | discarded =>
    rw [CacheEvent.mark?, Option.some.injEq] at hm
    exact absurd (hm ▸ hreq) not_requests_finished

theorem Step.eq_of_requests_marks {key' : Uri} (h : c.Step key event c' ts) {m : CacheMark}
    (hm : m ∈ c.marks event) (hreq : m.Requests key') : key' = key := by
  obtain hm | hm := List.mem_append.1 hm
  · exact absurd hreq (not_requests_of_mem_started hm)
  · exact h.eq_of_requests (Option.mem_toList.1 hm) hreq

theorem exists_started_of_starts {m : CacheMark} {epoch : Nat} (hm : m ∈ c.marks event)
    (hst : m.Starts key epoch) : ∃ t ∈ c.started event, t.key = key := by
  obtain hm | hm := List.mem_append.1 hm
  · obtain ⟨t, ht, rfl⟩ := List.mem_map.1 hm
    obtain ⟨t', heq, hk, -⟩ := hst
    cases heq
    exact ⟨t, ht, hk⟩
  · exact absurd hst (not_starts_of_mark (Option.mem_toList.1 hm))

/-! ### Runs that can be checked -/

instance decidableAllows (c : CompileCache) : (event : CacheEvent) → Decidable (c.Allows event)
  | .elapse timer => inferInstanceAs (Decidable (timer ∈ c.timers))
  | .finish task _ => inferInstanceAs (Decidable (task ∈ c.running))
  | .get _ | .invalidate _ _ | .recompile _ | .dispose _ => .isTrue trivial

instance decidableAllowsAll (c : CompileCache) :
    (events : List CacheEvent) → Decidable (c.AllowsAll events)
  | [] => .isTrue trivial
  | event :: events =>
    have := decidableAllowsAll (c.after event) events
    inferInstanceAs (Decidable (c.Allows event ∧ (c.after event).AllowsAll events))

instance (c : CompileCache) (key : Uri) (e : CacheEntry) : Decidable (c.HasTimer key e) :=
  inferInstanceAs (Decidable (∃ t ∈ c.timers, _))

end CompileCache

/-- The source `file:///a.c`. -/
def exampleSource : Uri :=
  { scheme := "file".toList, authority := some Uri.localAuthority, path := "/a.c".toList
    query := none, fragment := none }

/-- The assembly view of that source. -/
def exampleView : Uri :=
  { scheme := assemblyScheme, authority := none, path := "/a.asm".toList
    query := some "source=file%3A%2F%2F%2Fa.c".toList, fragment := none }

/-- A task for that source. -/
def exampleTask (id epoch : Nat) : CompileTask :=
  { id, key := exampleView, source := exampleSource, epoch }

theorem assemblyUri_exampleSource : assemblyUri exampleSource = .ok exampleView := by
  decide +kernel

namespace CompileCache

/-- The source is invalidated and is to be compiled now, both while its first task runs. -/
def queuedRun : List CacheEvent :=
  [.get exampleSource, .invalidate exampleSource 10, .recompile exampleSource]

theorem allowsAll_queuedRun (debounce : Nat) : (initial debounce).AllowsAll queuedRun :=
  ⟨trivial, trivial, trivial, trivial⟩

theorem entry?_queuedRun : ∃ e ∈ entry? ((initial 100).afterAll queuedRun) exampleView,
    e.source = exampleSource ∧ e.epoch = 0 ∧ e.inFlight = some 0 ∧ e.rerun = true := by
  decide +kernel

end CompileCache

end AsmExplorer
