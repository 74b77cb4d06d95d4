import AsmExplorer.Proofs.Cache.Accounting

/-!
# No request for a compilation is lost

A call to `recompile` or `invalidate` asks for a compilation that starts at or after the call.  It
may come while the source is idle, waits for a timer, is being compiled, or has a task queued behind
the one that runs, and it may be superseded by later calls.

`Unserved` reads off the record of a run that no task of an entry started at or after the latest
call.  The invariant (`Remembers`) is that an unserved entry still has a task queued or a timer set,
and that the outcome stored in an entry without a task in flight is that of the task started last.
Together they give `no_request_lost`.
-/

namespace AsmExplorer

namespace CompileCache

/-- A call asks for a compilation of the source of a view, and no task of the entry has started at
or after it. -/
def Unserved (marks : List CacheMark) (key : Uri) (epoch : Nat) : Prop :=
  ∃ since request before, marks = since ++ request :: before ∧ request.Requests key ∧
    ∀ m ∈ since, ¬m.Starts key epoch

/-- The task of an entry that started last is in flight, or it has finished and its outcome is
stored. -/
def LastStart (marks : List CacheMark) (c : CompileCache) (key : Uri) (e : CacheEntry) : Prop :=
  ∃ since task before, marks = since ++ .started task :: before ∧ task.key = key ∧
    task.epoch = e.epoch ∧ (∀ m ∈ since, ¬m.Starts key e.epoch) ∧
    (e.inFlight = some task.id ∧ task ∈ c.running ∨
      e.inFlight = none ∧ ∃ state, .finished task state ∈ since ∧
        e.outcome = some { task := task.id, state })

/-- What an entry remembers of the calls and tasks on record. -/
structure Remembers (marks : List CacheMark) (c : CompileCache) (key : Uri) (e : CacheEntry) :
    Prop where
  /-- A call that is not served yet is not forgotten. -/
  request : Unserved marks key e.epoch → e.rerun = true ∨ c.HasTimer key e
  /-- The latest task is in flight, or its outcome is stored. -/
  start : LastStart marks c key e

variable {c c' : CompileCache} {key : Uri} {e e' : CacheEntry} {event : CacheEvent}
  {ts : List CompileTask} {marks new : List CacheMark} {epoch : Nat}

/-! ### The record -/

theorem Unserved.of_append (h : Unserved (new ++ marks) key epoch)
    (hnew : ∀ m ∈ new, ¬m.Requests key) : Unserved marks key epoch := by
  obtain ⟨since, request, before, heq, hreq, hstart⟩ := h
  -- the call is among the old marks, for the new ones are no calls
  obtain ⟨rest, rfl, hrest⟩ | ⟨rest, rfl, hrest⟩ := List.append_eq_append_iff.1 heq
  · exact ⟨rest, request, before, hrest, hreq, fun m hm => hstart m (List.mem_append_right _ hm)⟩
  · cases rest with
    | nil =>
      exact ⟨[], request, before, hrest.symm, hreq, by simp⟩
    | cons m rest =>
      rw [List.cons_append, List.cons.injEq] at hrest
      exact absurd hreq (hrest.1 ▸ hnew m (by simp))

theorem not_unserved_started {t : CompileTask} (hk : t.key = key) (hep : t.epoch = epoch) :
    ¬Unserved (.started t :: marks) key epoch := by
  rintro ⟨since, request, before, heq, hreq, hstart⟩
  cases since with
  | nil =>
    rw [List.nil_append, List.cons.injEq] at heq
    exact not_requests_started (heq.1 ▸ hreq)
  | cons m since =>
    rw [List.cons_append, List.cons.injEq] at heq
    exact hstart m (by simp) ⟨t, heq.1.symm, hk, hep⟩

/-! ### Steps that start no task -/

/-- An entry that keeps its task in flight and its outcome keeps its latest start. -/
theorem LastStart.extend (h : LastStart marks c key e) (hnew : ∀ m ∈ new, ¬m.Starts key e.epoch)
    (hep : e'.epoch = e.epoch) (hf : e'.inFlight = e.inFlight) (ho : e'.outcome = e.outcome)
    (hrun : ∀ t ∈ c.tasksOf key e.epoch, t ∈ c'.running) :
    LastStart (new ++ marks) c' key e' := by
  obtain ⟨since, task, before, rfl, hk, hte, hstart, hlast⟩ := h
  refine ⟨new ++ since, task, before, (List.append_assoc ..).symm, hk, hep ▸ hte, ?_, ?_⟩
  · intro m hm
    rw [hep]
    exact (List.mem_append.1 hm).elim (hnew m) (hstart m)
  · rw [hf, ho]
    obtain ⟨hfl, hmem⟩ | ⟨hnone, state, hfin, hout⟩ := hlast
    · exact .inl ⟨hfl, hrun task (mem_tasksOf.2 ⟨hmem, hk, hte⟩)⟩
    · exact .inr ⟨hnone, state, List.mem_append_right _ hfin, hout⟩

/-- The task in flight finishes, and its outcome is stored. -/
theorem LastStart.finish (h : LastStart marks c key e) (hacc : c.Accounts key e)
    {task : CompileTask} {state : UnitState} (ht : task ∈ c.running) (hk : task.key = key)
    (hep : e.epoch = task.epoch) :
    LastStart (.finished task state :: marks) c' key
      { e with outcome := some { task := task.id, state }, inFlight := none } := by
  obtain ⟨hfl, heq⟩ := hacc.eq_of_mem ht hk hep
  obtain ⟨since, last, before, rfl, hlk, hle, hstart, ⟨hfl', hmem⟩ | ⟨hnone, -⟩⟩ := h
  · -- the task on record is the one that finishes, since both are in flight
    have hlast : last = task := by
      have hid : last.id = task.id := Option.some.inj (hfl'.symm.trans hfl)
      rw [heq, (hacc.eq_of_mem hmem hlk hle.symm).2, hid]
    subst hlast
    refine ⟨.finished last state :: since, last, before, rfl, hlk, hle, ?_, ?_⟩
    · refine List.forall_mem_cons.2 ⟨?_, hstart⟩
      rintro ⟨t, h, -⟩
      cases h
    · exact .inr ⟨rfl, state, by simp, rfl⟩
  · simp [hnone] at hfl

/-! ### Every step -/

theorem Step.remembers_of_started {t : CompileTask} (h : c.Step key event c' [t])
    (he' : c'.entry? key = some e') : Remembers (.started t :: marks) c' key e' := by
  obtain ⟨e, he, hf, hk, hep⟩ := h.entry_of_started (List.mem_singleton_self t)
  rw [he', Option.some.injEq] at he
  subst he
  obtain ⟨old, -, hrun⟩ := h.running_eq
  refine ⟨fun hun => absurd hun (not_unserved_started hk hep), ?_⟩
  exact ⟨[], t, marks, rfl, hk, hep, by simp, .inl ⟨hf, by simp [hrun]⟩⟩

theorem LastStart.request (h : LastStart marks c key e) (hnew : ∀ m ∈ new, ¬m.Starts key e.epoch)
    (hts : c.requestTasks key e = []) (hrun : c'.running = c.running)
    (he' : entry? (c'.request key { e with debouncing := false }) key = some e') :
    Remembers (new ++ marks) (c'.request key { e with debouncing := false }) key e' := by
  have hflight : e.inFlight.isSome := by
    by_contra hf
    simp [requestTasks, hf] at hts
  rw [entry?_request, if_pos rfl, Option.some.injEq, if_pos hflight] at he'
  subst he'
  refine ⟨fun _ => .inl rfl, h.extend hnew rfl rfl rfl fun t ht => ?_⟩
  rw [running_request, hrun]
  exact List.mem_append_left _ (mem_tasksOf.1 ht).1

/-- A step that starts no task keeps what the entry of its view remembers. -/
theorem Step.remembers_of_idle (h : c.Step key event c' ts) (hts : ts = []) (hc : c.Accounted)
    (hr : ∀ e, c.entry? key = some e → Remembers marks c key e)
    (he' : c'.entry? key = some e') : Remembers (event.mark?.toList ++ marks) c' key e' := by
  have hnew : ∀ {epoch : Nat}, ∀ m ∈ event.mark?.toList, ¬m.Starts key epoch := fun m hm =>
    not_starts_of_mark (Option.mem_toList.1 hm)
  cases h with
  | refused hs hf =>
    rw [mark?_eq_none_of_refused hs hf]
    exact hr e' he'
  | answered => exact hr e' he'
  | created => simp at hts
  | recompiled _ he => exact (hr _ he).start.request hnew hts rfl he'
  | untracked _ hnone => simp [hnone] at he'
  | invalidated _ he =>
    simp only [entry?_put, ↓reduceIte, Option.some.injEq] at he'
    subst he'
    refine ⟨fun _ => .inr ?_, (hr _ he).start.extend hnew rfl rfl rfl fun t ht => ?_⟩
    · exact ⟨_, List.mem_append_right _ (List.mem_singleton_self _), rfl, rfl, rfl⟩
    · exact (mem_tasksOf.1 ht).1
  | disposed => simp only [lookup_filter_ne, entry?, ↓reduceIte, reduceCtorEq] at he'
  | elapsed _ _ he => exact (hr _ he).start.request hnew hts rfl he'
  | expired _ hk hold =>
    have hrem := hr e' he'
    refine ⟨fun hun => (hrem.request hun).imp_right fun hcur => ?_,
      hrem.start.extend hnew rfl rfl rfl fun t ht => (mem_tasksOf.1 ht).1⟩
    exact (hasTimer_withoutTimer_iff (hold e' he')).2 hcur
  | finished ht hk he hep hrerun =>
    -- no task was to follow, so what is unserved waits for a timer
    simp only [entry?_put, ↓reduceIte, Option.some.injEq] at he'
    subst he'
    have hrem := hr _ he
    refine ⟨fun hun => .inr ?_, hrem.start.finish (hc.entries key _ he) ht hk hep⟩
    have hun' := hun.of_append not_requests_finish
    have hcur := (hrem.request hun').resolve_left (by simp [hrerun])
    exact (hasTimer_congr rfl rfl).2 hcur
  | followed => simp at hts
  | @discarded task state ht hk hgone =>
    have hrem := hr e' he'
    refine ⟨fun hun => ?_, hrem.start.extend hnew rfl rfl rfl fun t ht' => ?_⟩
    · have hun' := hun.of_append not_requests_finish
      exact (hrem.request hun').imp_right (hasTimer_congr rfl rfl).2
    · rw [mem_tasksOf] at ht'
      refine (mem_running_withoutTask hc.numbered ht).2 ⟨ht'.1, ?_⟩
      rintro rfl
      exact hgone e' he' ht'.2.2.symm

theorem Step.remembers_other {key' : Uri} (h : c.Step key event (c.after event) (c.started event))
    (hn : c.Numbered) (hne : key' ≠ key) (hr : Remembers marks c key' e) :
    Remembers (c.marks event ++ marks) (c.after event) key' e := by
  have hsame := h.others hn hne
  have hstarted : ∀ t ∈ c.started event, t.key = key := fun t ht => by
    obtain ⟨_, -, -, hk, -⟩ := h.entry_of_started ht
    exact hk
  refine ⟨fun hun => ?_, hr.start.extend ?_ rfl rfl rfl fun t ht => ?_⟩
  · have hun' := hun.of_append fun m hm hreq => hne (h.eq_of_requests_marks hm hreq)
    exact (hr.request hun').imp_right (hasTimer_congr (hsame.timers _) rfl).2
  · intro m hm hst
    obtain ⟨t, ht, hk⟩ := exists_started_of_starts hm hst
    exact hne (hk.symm.trans (hstarted t ht))
  · rw [← hsame.tasks] at ht
    exact (mem_tasksOf.1 ht).1

/-- What all entries remember, in a cache that is accounted for. -/
structure Remembered (marks : List CacheMark) (c : CompileCache) : Prop where
  /-- The tasks are accounted for. -/
  accounted : c.Accounted
  /-- Every entry remembers its calls and tasks. -/
  entries : ∀ key e, c.entry? key = some e → Remembers marks c key e

/-- **Every event keeps what the entries remember.** -/
theorem Remembered.after (h : Remembered marks c) (ha : c.Allows event) :
    Remembered (c.marks event ++ marks) (c.after event) := by
  obtain ⟨key, hstep⟩ := h.accounted.step_after ha
  refine ⟨h.accounted.after ha, fun key' e he => ?_⟩
  by_cases hk : key' = key
  · subst hk
    unfold CompileCache.marks
    obtain hnil | ⟨e₀, hone⟩ := hstep.tasks_eq
    · rw [hnil]
      exact hstep.remembers_of_idle hnil h.accounted (h.entries key') he
    · rw [hone] at hstep ⊢
      exact hstep.remembers_of_started he
  · have hsame := hstep.others h.accounted.numbered hk
    exact hstep.remembers_other h.accounted.numbered hk (h.entries key' e (hsame.entry ▸ he))

theorem Remembered.afterAll {events : List CacheEvent} (h : Remembered marks c)
    (ha : c.AllowsAll events) : Remembered (c.record events ++ marks) (c.afterAll events) :=
  record_induction (fun _ _ _ hr ha => hr.after ha) h ha

theorem remembered_initial (debounce : Nat) : Remembered [] (initial debounce) :=
  ⟨accounted_initial debounce, by simp [initial, entry?]⟩

/-! ### What is owed to a view -/

/-- A compilation of the source of a view is owed: if the source is tracked, a call asks for one and
no task of the entry has started since. -/
def Owed (marks : List CacheMark) (c : CompileCache) (key : Uri) : Prop :=
  ∀ e, c.entry? key = some e → Unserved marks key e.epoch

/-- A run starts a task of a view. -/
def Compiles (c : CompileCache) (events : List CacheEvent) (key : Uri) : Prop :=
  ∃ t, .started t ∈ c.record events ∧ t.key = key

theorem Unserved.append (h : Unserved marks key epoch) (hnew : ∀ m ∈ new, ¬m.Starts key epoch) :
    Unserved (new ++ marks) key epoch := by
  obtain ⟨since, request, before, rfl, hreq, hstart⟩ := h
  refine ⟨new ++ since, request, before, (List.append_assoc ..).symm, hreq, fun m hm => ?_⟩
  exact (List.mem_append.1 hm).elim (hnew m) (hstart m)

theorem compiles_append (events later : List CacheEvent) : c.Compiles (events ++ later) key ↔
    c.Compiles events key ∨ (c.afterAll events).Compiles later key := by
  simp only [Compiles, record_append, List.mem_append, or_and_right, exists_or]
  exact Or.comm

theorem compiles_singleton :
    c.Compiles [event] key ↔ ∃ t ∈ c.started event, t.key = key := by
  have hmark : ∀ t, .started t ∉ event.mark?.toList := fun t ht => by
    exact not_starts_of_mark (Option.mem_toList.1 ht) ⟨t, rfl, rfl, rfl⟩
  simp [Compiles, record, marks, hmark]

theorem Owed.after (h : Owed marks c key) (hc : c.Accounted) (ha : c.Allows event)
    (hnone : ¬∃ t ∈ c.started event, t.key = key) :
    Owed (c.marks event ++ marks) (c.after event) key := by
  intro e' he'
  obtain ⟨_, hstep⟩ := hc.step_after ha
  obtain ⟨e, he, hep⟩ := (hstep.entry_before hc.numbered he').resolve_right hnone
  exact (hep ▸ h e he).append fun m hm hst => hnone (exists_started_of_starts hm hst)

theorem Owed.afterAll {events : List CacheEvent} (h : Owed marks c key) (hc : c.Accounted)
    (ha : c.AllowsAll events) :
    c.Compiles events key ∨ Owed (c.record events ++ marks) (c.afterAll events) key := by
  induction events generalizing c marks with
  | nil => exact .inr h
  | cons event events ih =>
    rw [← List.singleton_append, compiles_append, compiles_singleton]
    by_cases hst : ∃ t ∈ c.started event, t.key = key
    · exact .inl (.inl hst)
    · obtain hlater | hlater := ih (h.after hc ha.1 hst) (hc.after ha.1) ha.2
      · exact .inl (.inr hlater)
      · rw [← List.append_assoc] at hlater
        exact .inr hlater

theorem Accounted.started_invalidate (hc : c.Accounted) (source : Uri) (now : Nat) :
    c.started (.invalidate source now) = [] := by
  obtain ⟨_, hstep⟩ := hc.step_after (show c.Allows (.invalidate source now) from trivial)
  refine List.eq_nil_iff_forall_not_mem.2 fun t ht => ?_
  exact hstep.exists_started_iff.1 ⟨t, ht, rfl⟩

theorem Accounted.owed_invalidate (hc : c.Accounted) {source : Uri} (now : Nat)
    (hk : assemblyUri source = .ok key) :
    Owed (c.marks (.invalidate source now) ++ marks) (c.after (.invalidate source now)) key := by
  intro e _
  rw [CompileCache.marks, hc.started_invalidate, mark?_invalidate hk]
  exact ⟨[], .invalidated key, marks, rfl, .inl rfl, by simp⟩

/-! ### The main result -/

/-- **No request for a compilation is lost.**  In every state that a run reaches, and for every
tracked source: if no task of the entry started at or after the latest call to `recompile` or
`invalidate`, then a task is in flight that another one is to follow, or a timer of the entry's
epoch and latest generation has not elapsed.  Hence an entry without a task in flight and without
such a timer stores the outcome of a task that started at or after the latest call. -/
theorem no_request_lost (debounce : Nat) (events : List CacheEvent)
    (h : (initial debounce).AllowsAll events) :
    let c := (initial debounce).afterAll events
    let marks := (initial debounce).record events
    ∀ key e, c.entry? key = some e →
      (Unserved marks key e.epoch →
        e.inFlight.isSome ∧ e.rerun = true ∨ c.HasTimer key e) ∧
      (e.inFlight = none → ¬c.HasTimer key e →
        ∃ since task state before, marks = since ++ .started task :: before ∧
          task.key = key ∧ task.epoch = e.epoch ∧ (∀ m ∈ since, ¬m.Requests key) ∧
          .finished task state ∈ since ∧
          e.outcome = some { task := task.id, state }) := by
  intro c marks key e he
  have hall : Remembered marks c := by
    simpa [marks] using (remembered_initial debounce).afterAll h
  have hrem := hall.entries key e he
  have hacc := hall.accounted.entries key e he
  have hkept : Unserved marks key e.epoch →
      e.inFlight.isSome ∧ e.rerun = true ∨ c.HasTimer key e := fun hun =>
    (hrem.request hun).imp_left fun hrerun => ⟨hacc.rerun hrerun, hrerun⟩
  refine ⟨hkept, fun hnone hcur => ?_⟩
  have hserved : ¬Unserved marks key e.epoch := fun hun => by
    obtain ⟨hfl, -⟩ | ht := hkept hun
    · simp [hnone] at hfl
    · exact hcur ht
  obtain ⟨since, task, before, heq, hk, hep, hstart, hlast⟩ := hrem.start
  obtain ⟨hfl, -⟩ | ⟨-, state, hfin, hout⟩ := hlast
  · simp [hnone] at hfl
  · refine ⟨since, task, state, before, heq, hk, hep, fun m hm hreq => hserved ?_, hfin, hout⟩
    -- a call after the latest start would be unserved
    obtain ⟨later, earlier, rfl⟩ := List.append_of_mem hm
    refine ⟨later, m, earlier ++ .started task :: before, ?_, hreq, fun m' hm' => ?_⟩
    · rw [heq, List.append_assoc, List.cons_append]
    · exact hstart m' (List.mem_append_left _ hm')

theorem unserved_queuedRun : Unserved ((initial 100).record queuedRun) exampleView 0 := by
  let before : List CacheEvent := [.get exampleSource, .invalidate exampleSource 10]
  have hnone : ((initial 100).afterAll before).started (.recompile exampleSource) = [] := by
    decide +kernel
  have hlast : ((initial 100).afterAll before).record [.recompile exampleSource] =
      [.recompiled exampleView] := by
    simp only [record, marks, hnone, mark?_recompile assemblyUri_exampleSource]
    rfl
  refine ⟨[], .recompiled exampleView, (initial 100).record before, ?_, .inr rfl, by simp⟩
  exact (record_append before [.recompile exampleSource]).trans (congrArg (· ++ _) hlast)

/-- The task that runs and the one that follows it come to their ends, and the timer elapses while
the latter runs. -/
def servedRun : List CacheEvent :=
  queuedRun ++ [.finish (exampleTask 0 0) (.failed default),
    .elapse { due := 110, key := exampleView, epoch := 0, generation := 1 },
    .finish (exampleTask 1 0) (.failed default), .finish (exampleTask 2 0) (.failed default)]

theorem entry?_servedRun : ∃ e ∈ entry? ((initial 100).afterAll servedRun) exampleView,
    e.inFlight = none ∧ ¬((initial 100).afterAll servedRun).HasTimer exampleView e := by
  decide +kernel

/-- The call of the first run is still to be served, and in the second run it has been. -/
theorem request_served :
    (∃ e ∈ entry? ((initial 100).afterAll queuedRun) exampleView,
      e.inFlight.isSome ∧ e.rerun = true ∨
        ((initial 100).afterAll queuedRun).HasTimer exampleView e) ∧
    ∃ e ∈ entry? ((initial 100).afterAll servedRun) exampleView,
      ∃ since task state before,
        (initial 100).record servedRun = since ++ .started task :: before ∧
        (∀ m ∈ since, ¬m.Requests exampleView) ∧
        e.outcome = some { task := task.id, state } := by
  constructor
  · obtain ⟨e, he, -, hepoch, -⟩ := entry?_queuedRun
    have hlost := no_request_lost 100 queuedRun (allowsAll_queuedRun 100) exampleView e he
    exact ⟨e, he, hlost.1 (hepoch ▸ unserved_queuedRun)⟩
  · obtain ⟨e, he, hnone, htimer⟩ := entry?_servedRun
    have hlost := no_request_lost 100 servedRun (by decide +kernel) exampleView e he
    obtain ⟨since, task, state, before, hmarks, -, -, hreq, -, hout⟩ := hlost.2 hnone htimer
    exact ⟨e, he, since, task, state, before, hmarks, hreq, hout⟩

end CompileCache

end AsmExplorer
