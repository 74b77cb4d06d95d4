import AsmExplorer.Proofs.Cache.Run

/-!
# The tasks of an entry are accounted for

An entry says which task of it is in flight and whether another one is to follow.  `Accounts` is the
invariant that this is true: the running tasks of the entry's view and epoch are the one in flight
and no other, another one is to follow only a task that runs, and a unit is stored or under way.

Tasks of earlier epochs go on running when a source is forgotten and tracked again, so the invariant
also has the epochs of all tasks below the next one (`Accounted`); a new entry then has no task but
its own.

From the account it can be read off what starts a task (`StartsFor`) and that asking for the unit of
a tracked source never does.  `inFlight_accounting` puts these together.
-/

namespace AsmExplorer

namespace CompileCache

/-- What an entry says of its tasks is true. -/
structure Accounts (c : CompileCache) (key : Uri) (e : CacheEntry) : Prop where
  /-- The task in flight runs, and no other task of the entry does. -/
  tasks : c.tasksOf key e.epoch =
    e.inFlight.toList.map fun id => { id, key, source := e.source, epoch := e.epoch }
  /-- A task is to follow only one that runs. -/
  rerun : e.rerun = true → e.inFlight.isSome
  /-- A unit is stored or under way. -/
  settled : e.outcome.isSome ∨ e.inFlight.isSome
  /-- The epoch was given out. -/
  epoch : e.epoch < c.nextEpoch

/-- What all entries say of their tasks is true. -/
structure Accounted (c : CompileCache) : Prop where
  /-- The tasks are numbered. -/
  numbered : c.Numbered
  /-- The epochs of all tasks were given out. -/
  epochs : ∀ t ∈ c.running, t.epoch < c.nextEpoch
  /-- Every entry is right. -/
  entries : ∀ key e, c.entry? key = some e → c.Accounts key e

variable {c c' : CompileCache} {key : Uri} {e : CacheEntry} {event : CacheEvent}
  {ts : List CompileTask}

theorem Accounted.settled (h : c.Accounted) : c.Settled :=
  fun key e he => (h.entries key e he).settled

theorem Accounted.step_after (h : c.Accounted) (ha : c.Allows event) :
    ∃ key, c.Step key event (c.after event) (c.started event) :=
  CompileCache.step_after h.settled h.numbered ha

theorem Accounts.of_sameAt (h : c.Accounts key e) (hs : c.SameAt c' key)
    (hle : c.nextEpoch ≤ c'.nextEpoch) : c'.Accounts key e :=
  ⟨(hs.tasks _).trans h.tasks, h.rerun, h.settled, Nat.lt_of_lt_of_le h.epoch hle⟩

theorem Accounts.tasksOf_eq_nil (h : c.Accounts key e) (hf : e.inFlight = none) :
    c.tasksOf key e.epoch = [] := by
  rw [h.tasks, hf]; rfl

theorem Accounts.eq_of_mem (h : c.Accounts key e) {t : CompileTask} (ht : t ∈ c.running)
    (hk : t.key = key) (hep : e.epoch = t.epoch) :
    e.inFlight = some t.id ∧ t = { id := t.id, key, source := e.source, epoch := e.epoch } := by
  have hmem : t ∈ c.tasksOf key e.epoch := mem_tasksOf.2 ⟨ht, hk, hep.symm⟩
  rw [h.tasks] at hmem
  cases hf : e.inFlight with
  | none => simp [hf] at hmem
  | some id =>
    simp only [hf, Option.toList_some, List.map_singleton, List.mem_singleton] at hmem
    subst hmem
    exact ⟨rfl, rfl⟩

theorem Accounted.tasksOf_nextEpoch (h : c.Accounted) : c.tasksOf key c.nextEpoch = [] := by
  refine List.filter_eq_nil_iff.2 fun t ht => ?_
  have := h.epochs t ht
  simp only [decide_eq_true_eq, not_and]
  omega

theorem Step.nextEpoch_le (h : c.Step key event c' ts) : c.nextEpoch ≤ c'.nextEpoch := by
  cases h with
  | created => exact Nat.le_succ _
  | recompiled => exact Nat.le_of_eq nextEpoch_request.symm
  | elapsed => exact Nat.le_of_eq (nextEpoch_request (c := c.withoutTimer _)).symm
  | _ => exact Nat.le_refl _

/-! ### Starting and queueing -/

/-- Starting a task for an entry that has none. -/
theorem Accounts.start (hnil : c.tasksOf key e.epoch = []) (hep : e.epoch < c.nextEpoch) :
    (c.start key e).Accounts key { e with rerun := false, inFlight := some c.nextTask } where
  tasks := by simp [tasksOf_start, hnil, nextTaskFor]
  rerun := by simp
  settled := .inr rfl
  epoch := hep

theorem Accounts.request (h : c.Accounts key e) :
    (c.request key e).Accounts key
      (if e.inFlight.isSome then { e with rerun := true }
        else { e with rerun := false, inFlight := some c.nextTask }) := by
  unfold CompileCache.request
  split
  · rename_i hf
    exact ⟨h.tasks, fun _ => hf, h.settled, h.epoch⟩
  · rename_i hf
    exact .start (h.tasksOf_eq_nil (by simpa using hf)) h.epoch

theorem Accounts.tasksOf_withoutTask_eq_nil (h : c.Accounts key e) {task : CompileTask}
    (ht : task ∈ c.running) (hk : task.key = key) (hep : e.epoch = task.epoch) :
    (c.withoutTask task).tasksOf key e.epoch = [] := by
  rw [tasksOf_withoutTask, h.tasks, (h.eq_of_mem ht hk hep).1]
  simp

/-! ### Every step -/

/-- **A step keeps the entry of the view it concerns right.** -/
theorem Step.accounts (h : c.Step key event c' ts) (hc : c.Accounted) {e' : CacheEntry}
    (he' : c'.entry? key = some e') : c'.Accounts key e' := by
  cases h with
  | refused => exact hc.entries key e' he'
  | answered => exact hc.entries key e' he'
  | untracked _ hnone => simp [hnone] at he'
  | created =>
    simp only [entry?_start, ↓reduceIte, Option.some.injEq] at he'
    subst he'
    exact .start hc.tasksOf_nextEpoch (Nat.lt_succ_self _)
  | recompiled _ he =>
    simp only [entry?_request, ↓reduceIte, Option.some.injEq] at he'
    subst he'
    have hold := hc.entries key _ he
    exact Accounts.request ⟨hold.tasks, hold.rerun, hold.settled, hold.epoch⟩
  | invalidated _ he =>
    simp only [entry?_put, ↓reduceIte, Option.some.injEq] at he'
    subst he'
    have hold := hc.entries key _ he
    exact ⟨hold.tasks, hold.rerun, hold.settled, hold.epoch⟩
  | disposed =>
    simp only [lookup_filter_ne, entry?, ↓reduceIte, reduceCtorEq] at he'
  | elapsed _ _ he =>
    simp only [entry?_request, ↓reduceIte, Option.some.injEq] at he'
    subst he'
    have hold := hc.entries key _ he
    exact Accounts.request ⟨hold.tasks, hold.rerun, hold.settled, hold.epoch⟩
  | expired =>
    have hold := hc.entries key e' he'
    exact ⟨hold.tasks, hold.rerun, hold.settled, hold.epoch⟩
  | finished ht hk he hep hr =>
    simp only [entry?_put, ↓reduceIte, Option.some.injEq] at he'
    subst he'
    have hold := hc.entries key _ he
    exact ⟨hold.tasksOf_withoutTask_eq_nil ht hk hep, by simp [hr], .inl rfl, hold.epoch⟩
  | followed ht hk he hep =>
    simp only [entry?_start, ↓reduceIte, Option.some.injEq] at he'
    subst he'
    have hold := hc.entries key _ he
    exact .start (hold.tasksOf_withoutTask_eq_nil ht hk hep) hold.epoch
  | discarded ht hk hgone =>
    -- the task was one of an earlier epoch, so the entry loses none
    have hold := hc.entries key e' he'
    exact ⟨(tasksOf_withoutTask_of_ne hc.numbered ht (.inr (hgone e' he'))).trans hold.tasks,
      hold.rerun, hold.settled, hold.epoch⟩

theorem Step.entry_of_started (h : c.Step key event c' ts) {t : CompileTask} (ht : t ∈ ts) :
    ∃ e, c'.entry? key = some e ∧ e.inFlight = some t.id ∧ t.key = key ∧ t.epoch = e.epoch := by
  cases h with
  | created =>
    rw [List.mem_singleton] at ht
    subst ht
    exact ⟨_, entry?_start.trans (if_pos rfl), rfl, rfl, rfl⟩
  | followed =>
    rw [List.mem_singleton] at ht
    subst ht
    exact ⟨_, entry?_start.trans (if_pos rfl), rfl, rfl, rfl⟩
  | recompiled | elapsed =>
    unfold requestTasks at ht
    split at ht
    · simp at ht
    · rename_i hf
      rw [List.mem_singleton] at ht
      subst ht
      refine ⟨_, entry?_request.trans (if_pos rfl), ?_⟩
      rw [if_neg hf]
      exact ⟨rfl, rfl, rfl⟩
  | _ => simp at ht

/-- An entry was there before with the same epoch, or it is new and a task of it is started. -/
theorem Step.entry_before (h : c.Step key event c' ts) (hn : c.Numbered) {key' : Uri}
    {e' : CacheEntry} (he' : c'.entry? key' = some e') :
    (∃ e, c.entry? key' = some e ∧ e.epoch = e'.epoch) ∨ ∃ t ∈ ts, t.key = key' := by
  by_cases hk : key' = key
  · subst hk
    cases h with
    | refused | answered | untracked | expired | discarded => exact .inl ⟨e', he', rfl⟩
    | created => exact .inr ⟨_, List.mem_singleton_self _, rfl⟩
    | recompiled _ he =>
      simp only [entry?_request, ↓reduceIte, Option.some.injEq] at he'
      exact .inl ⟨_, he, by rw [← he']; split <;> rfl⟩
    | elapsed _ _ he =>
      simp only [entry?_request, ↓reduceIte, Option.some.injEq] at he'
      exact .inl ⟨_, he, by rw [← he']; split <;> rfl⟩
    | invalidated _ he =>
      simp only [entry?_put, ↓reduceIte, Option.some.injEq] at he'
      exact .inl ⟨_, he, by rw [← he']⟩
    | finished _ _ he =>
      simp only [entry?_put, ↓reduceIte, Option.some.injEq] at he'
      exact .inl ⟨_, he, by rw [← he']⟩
    | followed => exact .inr ⟨_, List.mem_singleton_self _, rfl⟩
    | disposed => simp only [lookup_filter_ne, entry?, ↓reduceIte, reduceCtorEq] at he'
  · exact .inl ⟨e', (h.others hn hk).entry ▸ he', rfl⟩

/-- An entry stays until its source is forgotten. -/
theorem Step.entry_after (h : c.Step key event c' ts) (hn : c.Numbered) {key' : Uri}
    (he : c.entry? key' = some e)
    (hkept : ∀ source, event = .dispose source → assemblyUri source ≠ .ok key') :
    ∃ e', c'.entry? key' = some e' := by
  by_cases hk : key' = key
  · subst hk
    cases h with
    | refused | answered | untracked | expired | discarded => exact ⟨e, he⟩
    | created | followed => exact ⟨_, entry?_start.trans (if_pos rfl)⟩
    | recompiled | elapsed => exact ⟨_, entry?_request.trans (if_pos rfl)⟩
    | invalidated | finished => exact ⟨_, entry?_put.trans (if_pos rfl)⟩
    | disposed hkey => exact absurd hkey (hkept _ rfl)
  · exact ⟨e, (h.others hn hk).entry.trans he⟩

/-- **Every event keeps the account.** -/
theorem Accounted.after (h : c.Accounted) (ha : c.Allows event) : (c.after event).Accounted := by
  obtain ⟨key, hstep⟩ := h.step_after ha
  refine ⟨hstep.numbered h.numbered, fun t ht => ?_, fun key' e he => ?_⟩
  · -- a new task carries the epoch of its entry
    obtain ⟨old, hsub, hrun⟩ := hstep.running_eq
    rw [hrun, List.mem_append] at ht
    obtain ht | ht := ht
    · exact Nat.lt_of_lt_of_le (h.epochs t (hsub.subset ht)) hstep.nextEpoch_le
    · obtain ⟨e, he, -, -, hep⟩ := hstep.entry_of_started ht
      exact hep ▸ (hstep.accounts h he).epoch
  · by_cases hk : key' = key
    · subst hk
      exact hstep.accounts h he
    · have hsame := hstep.others h.numbered hk
      exact (h.entries key' e (hsame.entry ▸ he)).of_sameAt hsame hstep.nextEpoch_le

theorem accounted_initial (debounce : Nat) : (initial debounce).Accounted :=
  ⟨⟨by simp [initial], by simp [initial]⟩, by simp [initial], by simp [initial, entry?]⟩

theorem Accounted.afterAll {events : List CacheEvent} (h : c.Accounted) (ha : c.AllowsAll events) :
    (c.afterAll events).Accounted :=
  record_induction (I := fun _ c => c.Accounted) (h := []) (fun _ _ _ hc ha => hc.after ha) h ha

theorem accounted_afterAll {debounce : Nat} {events : List CacheEvent}
    (h : (initial debounce).AllowsAll events) : ((initial debounce).afterAll events).Accounted :=
  (accounted_initial debounce).afterAll h

/-- In a run an entry stays until its source is forgotten. -/
theorem Accounted.entry_afterAll {events : List CacheEvent} (h : c.Accounted)
    (ha : c.AllowsAll events)
    (hkept : ∀ source, .dispose source ∈ events → assemblyUri source ≠ .ok key)
    (he : ∃ e, c.entry? key = some e) : ∃ e, entry? (c.afterAll events) key = some e := by
  induction events generalizing c with
  | nil => exact he
  | cons event events ih =>
    obtain ⟨e, he⟩ := he
    obtain ⟨_, hstep⟩ := h.step_after ha.1
    refine ih (h.after ha.1) ha.2 (fun source hs => hkept source (List.mem_cons_of_mem _ hs)) ?_
    refine hstep.entry_after h.numbered he ?_
    rintro source rfl
    exact hkept source List.mem_cons_self

/-- A source whose unit has been asked for is tracked. -/
theorem Accounted.entry_get (h : c.Accounted) {source : Uri} (hk : assemblyUri source = .ok key) :
    ∃ e, entry? (c.after (.get source)) key = some e := by
  obtain ⟨key', ts, hstep⟩ := exists_step_get h.settled source
  generalize c.after (.get source) = c' at hstep
  cases hstep with
  | refused hs hf => cases hs; simp [hf] at hk
  | answered hk' he =>
    obtain rfl : key' = key := Except.ok.inj (hk'.symm.trans hk)
    exact ⟨_, he⟩
  | created hev hk' =>
    obtain hev | hev := hev
    · cases hev
      obtain rfl : key' = key := Except.ok.inj (hk'.symm.trans hk)
      exact ⟨_, entry?_start.trans (if_pos rfl)⟩
    · cases hev

/-! ### What starts a task -/

/-- The events that start a task of a view: a call that makes its source tracked, a call to compile
it now while no task is in flight, the timer of its latest invalidation while no task is in flight,
and the end of a task that another one is to follow. -/
def StartsFor (c : CompileCache) (key : Uri) : CacheEvent → Prop
  | .get source => assemblyUri source = .ok key ∧ c.entry? key = none
  | .recompile source =>
    assemblyUri source = .ok key ∧ ∀ e, c.entry? key = some e → e.inFlight = none
  | .elapse timer => timer.key = key ∧ ∃ e, c.entry? key = some e ∧ e.epoch = timer.epoch ∧
    e.generation = timer.generation ∧ e.inFlight = none
  | .finish task _ => task.key = key ∧ ∃ e, c.entry? key = some e ∧ e.epoch = task.epoch ∧
    e.rerun = true
  | .invalidate _ _ | .dispose _ => False

theorem exists_mem_requestTasks {key' : Uri} :
    (∃ t ∈ c.requestTasks key e, t.key = key') ↔ key = key' ∧ e.inFlight = none := by
  unfold requestTasks
  cases e.inFlight <;> simp [nextTaskFor]

theorem Step.exists_started_iff {key' : Uri} (h : c.Step key event c' ts) :
    (∃ t ∈ ts, t.key = key') ↔ c.StartsFor key' event := by
  have hname : ∀ {source : Uri}, assemblyUri source = .ok key →
      (assemblyUri source = .ok key' ↔ key = key') := fun h => by rw [h, Except.ok.injEq]
  cases h with
  | refused hs hf => cases event <;> cases hs <;> simp [StartsFor, hf]
  | answered hk he =>
    simp only [List.not_mem_nil, false_and, exists_false, StartsFor, hname hk, false_iff]
    rintro ⟨rfl, hnone⟩
    simp [he] at hnone
  | created hev hk hnone =>
    simp only [List.mem_singleton, exists_eq_left]
    change key = key' ↔ _
    obtain rfl | rfl := hev
    · simp only [StartsFor, hname hk]
      exact ⟨fun h => ⟨h, h ▸ hnone⟩, fun h => h.1⟩
    · simp only [StartsFor, hname hk]
      exact ⟨fun h => ⟨h, fun e he => by simp [← h, hnone] at he⟩, fun h => h.1⟩
  | recompiled hk he =>
    rw [exists_mem_requestTasks]
    simp only [StartsFor, hname hk]
    refine and_congr_right fun h => ?_
    subst h
    simp [he]
  | untracked | invalidated => simp [StartsFor]
  | disposed => simp [StartsFor]
  | elapsed _ hk he hep hgen =>
    rw [exists_mem_requestTasks]
    simp only [StartsFor, hk]
    refine and_congr_right fun h => ?_
    subst h
    simp [he, hep, hgen]
  | expired _ hk hold =>
    simp only [List.not_mem_nil, false_and, exists_false, StartsFor, hk, false_iff]
    rintro ⟨rfl, e, he, hep, hgen, -⟩
    exact hold e he hep hgen
  | finished _ hk he _ hr =>
    simp only [List.not_mem_nil, false_and, exists_false, StartsFor, hk, false_iff]
    rintro ⟨rfl, e', he', -, hr'⟩
    rw [he, Option.some.injEq] at he'
    subst he'
    simp [hr] at hr'
  | followed _ hk he hep hr =>
    simp only [List.mem_singleton, exists_eq_left, StartsFor, hk]
    change key = key' ↔ _
    exact ⟨fun h => ⟨h, _, h ▸ he, hep, hr⟩, fun h => h.1⟩
  | discarded _ hk hgone =>
    simp only [List.not_mem_nil, false_and, exists_false, StartsFor, hk, false_iff]
    rintro ⟨rfl, e, he, hep, -⟩
    exact hgone e he hep

/-- Asking for the unit of a tracked source changes nothing; the answer is the stored outcome or the
task in flight. -/
theorem Accounted.getOrCompile_tracked (h : c.Accounted) {source : Uri}
    (hk : assemblyUri source = .ok key) (he : c.entry? key = some e) :
    (∃ outcome, e.outcome = some outcome ∧ c.getOrCompile source = (c, .stored outcome)) ∨
      ∃ id, e.outcome = none ∧ e.inFlight = some id ∧
        c.getOrCompile source = (c, .pending id) := by
  simp only [getOrCompile, hk, track, he]
  cases ho : e.outcome with
  | some outcome => exact .inl ⟨outcome, rfl, rfl⟩
  | none =>
    have hset := h.settled key e he
    cases hf : e.inFlight with
    | some id => exact .inr ⟨id, rfl, rfl, rfl⟩
    | none => simp [ho, hf] at hset

/-- **In-flight accounting.**  In every state that a run reaches, and for every tracked source:

* a task is in flight exactly when there is one, and only one, running task of the entry, and it is
  that one; another task is to follow only a running one; a unit is stored or under way;
* asking for the unit changes nothing and starts nothing, and is answered by the stored outcome, be
  it a failure, or else by the task in flight.

An event starts at most one task, and exactly for the reasons listed by `StartsFor`. -/
theorem inFlight_accounting (debounce : Nat) (events : List CacheEvent)
    (h : (initial debounce).AllowsAll events) :
    let c := (initial debounce).afterAll events
    (∀ key e, c.entry? key = some e →
      (∀ id, e.inFlight = some id →
        c.tasksOf key e.epoch = [{ id, key, source := e.source, epoch := e.epoch }]) ∧
      (e.inFlight = none → c.tasksOf key e.epoch = []) ∧
      (e.rerun = true → e.inFlight.isSome) ∧
      (e.outcome = none → e.inFlight.isSome)) ∧
    (∀ source key e, assemblyUri source = .ok key → c.entry? key = some e →
      c.started (.get source) = [] ∧
      ((∃ outcome, e.outcome = some outcome ∧ c.getOrCompile source = (c, .stored outcome)) ∨
        ∃ id, e.outcome = none ∧ e.inFlight = some id ∧
          c.getOrCompile source = (c, .pending id))) ∧
    ∀ event, c.Allows event → (c.started event).length ≤ 1 ∧
      ∀ key, (∃ t ∈ c.started event, t.key = key) ↔ c.StartsFor key event := by
  intro c
  have hc : c.Accounted := accounted_afterAll h
  refine ⟨fun key e he => ?_, fun source key e hk he => ⟨?_, hc.getOrCompile_tracked hk he⟩,
    fun event ha => ?_⟩
  · have hacc := hc.entries key e he
    refine ⟨fun id hf => ?_, hacc.tasksOf_eq_nil, hacc.rerun, fun ho => ?_⟩
    · rw [hacc.tasks, hf]; rfl
    · simpa [ho] using hacc.settled
  · have hsame : c.after (.get source) = c := by
      obtain ⟨_, -, hget⟩ | ⟨_, -, -, hget⟩ := hc.getOrCompile_tracked hk he <;>
        exact congrArg Prod.fst hget
    have hstep : c.Step key (.get source) (c.after (.get source)) [] := by
      rw [hsame]
      exact .answered hk he
    exact hstep.started_eq hc.numbered
  · obtain ⟨key, hstep⟩ := hc.step_after ha
    refine ⟨?_, fun key' => hstep.exists_started_iff⟩
    obtain hnil | ⟨e, hone⟩ := hstep.tasks_eq
    · simp [hnil]
    · simp [hone]

/-- While a task is queued behind the one that runs, that one is the only task of the entry, asking
for the unit starts none, and the end of the task starts at most one. -/
theorem tasksOf_queuedRun :
    ((initial 100).afterAll queuedRun).tasksOf exampleView 0 = [exampleTask 0 0] ∧
      ((initial 100).afterAll queuedRun).started (.get exampleSource) = [] ∧
      (((initial 100).afterAll queuedRun).started
        (.finish (exampleTask 0 0) (.failed default))).length ≤ 1 := by
  obtain ⟨e, he, hsource, hepoch, hflight, -⟩ := entry?_queuedRun
  obtain ⟨hentries, hget, hevents⟩ := inFlight_accounting 100 queuedRun (allowsAll_queuedRun 100)
  refine ⟨?_, (hget exampleSource exampleView e assemblyUri_exampleSource he).1,
    (hevents (.finish (exampleTask 0 0) (.failed default)) (by decide +kernel)).1⟩
  have htasks := (hentries exampleView e he).1 0 hflight
  rw [hsource, hepoch] at htasks
  exact htasks

end CompileCache

end AsmExplorer
