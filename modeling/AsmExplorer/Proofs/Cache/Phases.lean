import AsmExplorer.Proofs.Cache.Accounting

/-!
# What the phase of an entry says

An entry is reported as debouncing when no task is in flight and its flag `debouncing` is set, and
as idle when neither is the case.  Whether something is still going to happen is another matter: the
timer of the latest generation starts a compilation when it elapses, whatever the flag says.

The flag and the timer agree as long as nobody calls `recompile`.  That call clears the flag and
leaves the timer in force.  So the flag is set exactly when the timer of the latest generation has
not elapsed and no call to `recompile` came after the latest invalidation (`Absorbed`); what is
reported is what is going to happen except in an entry where such a call did come and the timer is
still running (`phase_exact_iff`).  `phase_not_exact` is a run to such an entry.
-/

namespace AsmExplorer

namespace CompileCache

/-- The source of a view was to be compiled now after it was last invalidated. -/
def Absorbed (marks : List CacheMark) (key : Uri) : Prop :=
  ∃ since before, marks = since ++ .recompiled key :: before ∧ .invalidated key ∉ since

/-- The timers of an entry belong to different invalidations. -/
structure Timed (c : CompileCache) (key : Uri) (e : CacheEntry) : Prop where
  /-- No two timers have the same generation. -/
  nodup : ((c.timersOf key e.epoch).map DebounceTimer.generation).Nodup
  /-- No timer has a later generation than the entry. -/
  le : ∀ t ∈ c.timersOf key e.epoch, t.generation ≤ e.generation

/-- The flag of an entry is set while the timer of its latest invalidation is running, unless a
call to `recompile` came after it. -/
def Flagged (marks : List CacheMark) (c : CompileCache) (key : Uri) (e : CacheEntry) : Prop :=
  e.debouncing = true ↔ c.HasTimer key e ∧ ¬Absorbed marks key

variable {c c' : CompileCache} {key : Uri} {e e' : CacheEntry} {event : CacheEvent}
  {ts : List CompileTask} {marks new : List CacheMark}

/-! ### The record -/

theorem absorbed_cons {m : CacheMark} : Absorbed (m :: marks) key ↔
    m = .recompiled key ∨ m ≠ .invalidated key ∧ Absorbed marks key := by
  constructor
  · rintro ⟨since, before, heq, hnot⟩
    cases since with
    | nil =>
      rw [List.nil_append, List.cons.injEq] at heq
      exact .inl heq.1
    | cons m' since =>
      rw [List.cons_append, List.cons.injEq] at heq
      obtain ⟨rfl, rfl⟩ := heq
      rw [List.mem_cons, not_or] at hnot
      exact .inr ⟨Ne.symm hnot.1, since, before, rfl, hnot.2⟩
  · rintro (rfl | ⟨hne, since, before, rfl, hnot⟩)
    · exact ⟨[], marks, rfl, by simp⟩
    · exact ⟨m :: since, before, rfl, by simpa [List.mem_cons, hne.symm] using hnot⟩

/-- Marks that are no calls for the view change nothing. -/
theorem absorbed_append_iff (hnew : ∀ m ∈ new, ¬m.Requests key) :
    Absorbed (new ++ marks) key ↔ Absorbed marks key := by
  induction new with
  | nil => rfl
  | cons m new ih =>
    rw [List.forall_mem_cons] at hnew
    rw [List.cons_append, absorbed_cons, ih hnew.2]
    exact ⟨fun h => h.elim (fun h => absurd (.inr h) hnew.1) And.right,
      fun h => .inr ⟨fun h' => hnew.1 (.inl h'), h⟩⟩

/-! ### Timers -/

theorem Timed.of_sublist (h : c.Timed key e)
    (hsub : (c'.timersOf key e'.epoch).Sublist (c.timersOf key e.epoch))
    (hgen : e.generation ≤ e'.generation) : c'.Timed key e' :=
  ⟨h.nodup.sublist (hsub.map _), fun t ht => Nat.le_trans (h.le t (hsub.subset ht)) hgen⟩

theorem Timed.invalidate (h : c.Timed key e) (now : Nat) :
    ((c.withTimer (c.nextTimerFor key e now)).put key
        { e with generation := e.generation + 1, debouncing := true }).Timed key
      { e with generation := e.generation + 1, debouncing := true } := by
  have htimers : (c.withTimer (c.nextTimerFor key e now)).timersOf key e.epoch =
      c.timersOf key e.epoch ++ [c.nextTimerFor key e now] := by
    rw [timersOf_withTimer]
    exact congrArg _ (if_pos ⟨rfl, rfl⟩)
  constructor
  · change (((c.withTimer _).timersOf key e.epoch).map _).Nodup
    rw [htimers, List.map_append, List.map_singleton]
    refine h.nodup.append (List.nodup_singleton _) fun g hg hg' => ?_
    obtain ⟨t, ht, rfl⟩ := List.mem_map.1 hg
    have := h.le t ht
    simp only [nextTimerFor, List.mem_singleton] at hg'
    omega
  · intro t ht
    change t ∈ (c.withTimer _).timersOf key e.epoch at ht
    rw [htimers, List.mem_append, List.mem_singleton] at ht
    obtain ht | rfl := ht
    · exact Nat.le_succ_of_le (h.le t ht)
    · exact Nat.le_refl _

/-- When the timer of a generation has elapsed, no timer of that generation is left. -/
theorem Timed.not_hasTimer_withoutTimer (h : c.Timed key e) {timer : DebounceTimer}
    (ht : timer ∈ c.timers) (hk : timer.key = key) (hep : e.epoch = timer.epoch)
    (hgen : e.generation = timer.generation) : ¬(c.withoutTimer timer).HasTimer key e := by
  rw [hasTimer_iff, timersOf_withoutTimer]
  rintro ⟨t, ht', hg⟩
  rw [(List.Nodup.of_map _ h.nodup).mem_erase_iff] at ht'
  refine ht'.1 (List.inj_on_of_nodup_map h.nodup ht'.2 ?_ (hg.trans hgen))
  exact mem_timersOf.2 ⟨ht, hk, hep.symm⟩

theorem Step.timer_epoch_lt (h : c.Step key event c' ts) (hc : c.Accounted)
    (ht : ∀ t ∈ c.timers, t.epoch < c.nextEpoch) : ∀ t ∈ c'.timers, t.epoch < c'.nextEpoch := by
  intro t hmem
  refine Nat.lt_of_lt_of_le ?_ h.nextEpoch_le
  cases h with
  | invalidated _ he =>
    obtain hmem | hmem := List.mem_append.1 hmem
    · exact ht t hmem
    · rw [List.mem_singleton] at hmem
      subst hmem
      exact (hc.entries key _ he).epoch
  | elapsed =>
    rw [timers_request] at hmem
    exact ht t (List.mem_of_mem_erase hmem)
  | expired => exact ht t (List.mem_of_mem_erase hmem)
  | recompiled =>
    rw [timers_request] at hmem
    exact ht t hmem
  | _ => exact ht t hmem

theorem timersOf_nextEpoch (h : ∀ t ∈ c.timers, t.epoch < c.nextEpoch) :
    c.timersOf key c.nextEpoch = [] := by
  refine List.filter_eq_nil_iff.2 fun t ht => ?_
  have hlt := h t ht
  simp only [decide_eq_true_eq, not_and]
  omega

/-! ### Every step -/

/-- An entry whose timers and flag are right. -/
structure Clocked (marks : List CacheMark) (c : CompileCache) (key : Uri) (e : CacheEntry) :
    Prop where
  /-- Its timers belong to different invalidations. -/
  timed : c.Timed key e
  /-- Its flag is right. -/
  flagged : Flagged marks c key e

/-- An entry whose timers, generation and flag are as before, after marks that are no calls. -/
theorem Clocked.of_eq (h : Clocked marks c key e) (hnew : ∀ m ∈ new, ¬m.Requests key)
    (ht : c'.timersOf key e'.epoch = c.timersOf key e.epoch)
    (hgen : e'.generation = e.generation) (hflag : e'.debouncing = e.debouncing) :
    Clocked (new ++ marks) c' key e' := by
  refine ⟨h.timed.of_sublist (ht ▸ .refl _) (Nat.le_of_eq hgen.symm), ?_⟩
  rw [Flagged, hflag, hasTimer_congr ht hgen, absorbed_append_iff hnew]
  exact h.flagged

theorem Clocked.of_nil (hnil : c.timersOf key e.epoch = []) (hflag : e.debouncing = false) :
    Clocked marks c key e := by
  have hcur : ¬c.HasTimer key e := by simp [hasTimer_iff, hnil]
  exact ⟨⟨by simp [hnil], by simp [hnil]⟩, iff_of_false (by simp [hflag]) fun h => hcur h.1⟩

/-- A call to compile now clears the flag.  The timer is kept, but the call comes after the
invalidation that set it. -/
theorem Clocked.recompile (h : Clocked marks c key e) (hnew : ∀ m ∈ new, ¬m.Requests key)
    (ht : c'.timersOf key e'.epoch = c.timersOf key e.epoch)
    (hgen : e'.generation = e.generation) (hflag : e'.debouncing = false) :
    Clocked (new ++ .recompiled key :: marks) c' key e' := by
  refine ⟨h.timed.of_sublist (ht ▸ .refl _) (Nat.le_of_eq hgen.symm), ?_⟩
  have habs : Absorbed (new ++ .recompiled key :: marks) key :=
    (absorbed_append_iff hnew).2 (absorbed_cons.2 (.inl rfl))
  exact iff_of_false (by simp [hflag]) fun hcur => hcur.2 habs

/-- An invalidation sets the flag and the timer of the new generation. -/
theorem Clocked.invalidate (h : Clocked marks c key e) (now : Nat) :
    Clocked (.invalidated key :: marks)
      ((c.withTimer (c.nextTimerFor key e now)).put key
        { e with generation := e.generation + 1, debouncing := true }) key
      { e with generation := e.generation + 1, debouncing := true } := by
  refine ⟨h.timed.invalidate now, iff_of_true rfl ⟨?_, fun habs => ?_⟩⟩
  · exact ⟨_, List.mem_append_right _ (List.mem_singleton_self _), rfl, rfl, rfl⟩
  · obtain hcall | hcall := absorbed_cons.1 habs
    · cases hcall
    · exact hcall.1 rfl

/-- When the timer of the latest generation elapses the flag is cleared, and no such timer is
left. -/
theorem Clocked.elapse (h : Clocked marks c key e) {timer : DebounceTimer}
    (ht : timer ∈ c.timers) (hk : timer.key = key) (hep : e.epoch = timer.epoch)
    (hgen : e.generation = timer.generation)
    (htimers : c'.timersOf key e'.epoch = (c.withoutTimer timer).timersOf key e.epoch)
    (hgen' : e'.generation = e.generation) (hflag : e'.debouncing = false) :
    Clocked new c' key e' := by
  refine ⟨h.timed.of_sublist ?_ (Nat.le_of_eq hgen'.symm), ?_⟩
  · rw [htimers, timersOf_withoutTimer]
    exact List.erase_sublist
  · have hnone : ¬c'.HasTimer key e' := by
      rw [hasTimer_congr htimers hgen']
      exact h.timed.not_hasTimer_withoutTimer ht hk hep hgen
    exact iff_of_false (by simp [hflag]) fun hcur => hnone hcur.1

theorem Clocked.expire (h : Clocked marks c key e) {timer : DebounceTimer}
    (hold : e.epoch = timer.epoch → e.generation ≠ timer.generation) :
    Clocked marks (c.withoutTimer timer) key e := by
  refine ⟨h.timed.of_sublist ?_ (Nat.le_refl _), ?_⟩
  · rw [timersOf_withoutTimer]
    exact List.erase_sublist
  · rw [Flagged, hasTimer_withoutTimer_iff hold]
    exact h.flagged

/-- **A step keeps the timers and the flag of the entry of its view right.** -/
theorem Step.clocked (h : c.Step key event (c.after event) (c.started event))
    (hepochs : ∀ t ∈ c.timers, t.epoch < c.nextEpoch)
    (hr : ∀ e, c.entry? key = some e → Clocked marks c key e)
    (he' : entry? (c.after event) key = some e') :
    Clocked (c.marks event ++ marks) (c.after event) key e' := by
  have hstarted : ∀ m ∈ (c.started event).map CacheMark.started, ¬m.Requests key :=
    fun _ => not_requests_of_mem_started
  unfold CompileCache.marks
  generalize c.started event = ts at h hstarted
  generalize c.after event = c' at h he'
  rw [List.append_assoc]
  cases h with
  | refused hs hf =>
    rw [mark?_eq_none_of_refused hs hf]
    exact hr e' he'
  | answered => exact hr e' he'
  | created =>
    simp only [entry?_start, ↓reduceIte, Option.some.injEq] at he'
    subst he'
    have hnil : c.timersOf key c.nextEpoch = [] := timersOf_nextEpoch hepochs
    exact .of_nil hnil rfl
  | recompiled hk he =>
    obtain ⟨hep, hgen, hflag⟩ := request_entry he'
    rw [mark?_recompile hk]
    refine (hr _ he).recompile hstarted ?_ hgen hflag
    rw [hep]
    simp only [timersOf, timers_request]
  | untracked _ hnone => simp [hnone] at he'
  | invalidated hk he =>
    simp only [entry?_put, ↓reduceIte, Option.some.injEq] at he'
    subst he'
    rw [mark?_invalidate hk]
    exact (hr _ he).invalidate _
  | disposed => simp only [lookup_filter_ne, entry?, ↓reduceIte, reduceCtorEq] at he'
  | elapsed ht hk he hep hgen =>
    obtain ⟨hep', hgen', hflag⟩ := request_entry he'
    refine (hr _ he).elapse ht hk hep hgen ?_ hgen' hflag
    rw [hep']
    simp only [timersOf, timers_request]
  | expired _ hk hold => exact (hr e' he').expire (hold e' he')
  | finished ht hk he =>
    simp only [entry?_put, ↓reduceIte, Option.some.injEq] at he'
    subst he'
    exact (hr _ he).of_eq not_requests_finish rfl rfl rfl
  | followed ht hk he =>
    simp only [entry?_start, ↓reduceIte, Option.some.injEq] at he'
    subst he'
    rw [← List.append_assoc]
    refine (hr _ he).of_eq (fun m hm => ?_) rfl rfl rfl
    exact (List.mem_append.1 hm).elim (hstarted m) (not_requests_finish m)
  | discarded =>
    exact (hr e' he').of_eq not_requests_finish rfl rfl rfl

/-- The timers and flags of all entries, in a cache that is accounted for. -/
structure AllClocked (marks : List CacheMark) (c : CompileCache) : Prop where
  /-- The tasks are accounted for. -/
  accounted : c.Accounted
  /-- The epochs of all timers were given out. -/
  epochs : ∀ t ∈ c.timers, t.epoch < c.nextEpoch
  /-- The timers and the flag of every entry are right. -/
  entries : ∀ key e, c.entry? key = some e → Clocked marks c key e

/-- **Every event keeps the timers and flags right.** -/
theorem AllClocked.after (h : AllClocked marks c) (ha : c.Allows event) :
    AllClocked (c.marks event ++ marks) (c.after event) := by
  obtain ⟨key, hstep⟩ := h.accounted.step_after ha
  refine ⟨h.accounted.after ha, hstep.timer_epoch_lt h.accounted h.epochs, fun key' e he => ?_⟩
  by_cases hk : key' = key
  · subst hk
    exact hstep.clocked h.epochs (h.entries key') he
  · have hsame := hstep.others h.accounted.numbered hk
    have hclock := h.entries key' e (hsame.entry ▸ he)
    refine hclock.of_eq (fun m hm hreq => ?_) (hsame.timers _) rfl rfl
    exact hk (hstep.eq_of_requests_marks hm hreq)

theorem allClocked_afterAll {debounce : Nat} {events : List CacheEvent}
    (h : (initial debounce).AllowsAll events) :
    AllClocked ((initial debounce).record events) ((initial debounce).afterAll events) := by
  have h₀ : AllClocked [] (initial debounce) :=
    ⟨accounted_initial debounce, by simp [initial], by simp [initial, entry?]⟩
  simpa using record_induction (fun _ _ _ hr ha => hr.after ha) h₀ h

/-! ### The main result -/

/-- What the phase of an entry should say: it is idle only if no task is in flight and no timer of
its latest generation is running, and debouncing exactly if no task is in flight and such a timer is
running. -/
def PhaseExact (c : CompileCache) (key : Uri) (e : CacheEntry) : Prop :=
  (e.phase = .idle → e.inFlight = none ∧ ¬c.HasTimer key e) ∧
    (e.phase = .debouncing ↔ e.inFlight = none ∧ c.HasTimer key e)

theorem phase_eq_debouncing_iff :
    e.phase = .debouncing ↔ e.inFlight = none ∧ e.debouncing = true := by
  unfold CacheEntry.phase
  cases e.inFlight <;> cases e.debouncing <;> simp

theorem phase_eq_idle_iff :
    e.phase = .idle ↔ e.inFlight = none ∧ e.debouncing = false := by
  unfold CacheEntry.phase
  cases e.inFlight <;> cases e.debouncing <;> simp

/-- **When the phase is exact.**  In every state that a run reaches, and for every tracked source:

* the entry is debouncing exactly if no task is in flight and the timer of its latest generation is
  running, unless a call to `recompile` came after the latest invalidation;
* it is idle exactly if no task is in flight and that timer is not running or such a call came;
* so the phase says what is going to happen except when, with no task in flight, that timer is
  running and such a call came;
* for a call to `recompile` clears the flag and leaves the timer in force, and when that elapses it
  starts a task, or has one follow the task in flight. -/
theorem phase_exact_iff (debounce : Nat) (events : List CacheEvent)
    (h : (initial debounce).AllowsAll events) :
    let c := (initial debounce).afterAll events
    let marks := (initial debounce).record events
    ∀ key e, c.entry? key = some e →
      (e.phase = .debouncing ↔ e.inFlight = none ∧ c.HasTimer key e ∧ ¬Absorbed marks key) ∧
      (e.phase = .idle ↔ e.inFlight = none ∧ (c.HasTimer key e → Absorbed marks key)) ∧
      (c.PhaseExact key e ↔ ¬(e.inFlight = none ∧ c.HasTimer key e ∧ Absorbed marks key)) ∧
      (∀ source, assemblyUri source = .ok key →
        ∃ e', entry? (c.after (.recompile source)) key = some e' ∧ e'.debouncing = false ∧
          ((c.after (.recompile source)).HasTimer key e' ↔ c.HasTimer key e)) ∧
      ∀ timer ∈ c.timers, timer.key = key → timer.epoch = e.epoch →
        timer.generation = e.generation →
        (e.inFlight = none → c.started (.elapse timer) = [c.nextTaskFor key e]) ∧
        (e.inFlight.isSome → ∃ e', entry? (c.after (.elapse timer)) key = some e' ∧
          e'.inFlight = e.inFlight ∧ e'.rerun = true) := by
  intro c marks key e he
  have hall : AllClocked marks c := allClocked_afterAll h
  have hflag : e.debouncing = true ↔ c.HasTimer key e ∧ ¬Absorbed marks key :=
    (hall.entries key e he).flagged
  have hdeb : e.phase = .debouncing ↔
      e.inFlight = none ∧ c.HasTimer key e ∧ ¬Absorbed marks key := by
    rw [phase_eq_debouncing_iff, hflag]
  have hidle : e.phase = .idle ↔ e.inFlight = none ∧ (c.HasTimer key e → Absorbed marks key) := by
    rw [phase_eq_idle_iff, ← Bool.not_eq_true, hflag, not_and_not_right]
  refine ⟨hdeb, hidle, ?_, fun source hk => ?_, fun timer ht hk hep hgen => ?_⟩
  · rw [PhaseExact, hdeb, hidle]
    constructor
    · rintro ⟨hexact, -⟩ ⟨hnone, htimer, habs⟩
      exact (hexact ⟨hnone, fun _ => habs⟩).2 htimer
    · intro hno
      refine ⟨fun ⟨hnone, himp⟩ => ⟨hnone, fun htimer => ?_⟩, fun ⟨hnone, htimer, _⟩ => ?_,
        fun ⟨hnone, htimer⟩ => ?_⟩
      · exact hno ⟨hnone, htimer, himp htimer⟩
      · exact ⟨hnone, htimer⟩
      · exact ⟨hnone, htimer, fun habs => hno ⟨hnone, htimer, habs⟩⟩
  · rw [after_recompile hk he]
    have he' : entry? (c.request key { e with debouncing := false }) key = some _ :=
      entry?_request.trans (if_pos rfl)
    obtain ⟨hep, hgen, hdeb'⟩ := request_entry he'
    refine ⟨_, he', hdeb', hasTimer_congr ?_ hgen⟩
    rw [hep]
    simp only [timersOf, timers_request]
  · have hafter := after_elapse hk he hep.symm hgen.symm
    have hstep : c.Step key (.elapse timer) (c.after (.elapse timer)) (c.requestTasks key e) :=
      hafter ▸ .elapsed ht hk he hep.symm hgen.symm
    refine ⟨fun hnone => ?_, fun hsome => ?_⟩
    · rw [hstep.started_eq hall.accounted.numbered, requestTasks, hnone]
      rfl
    · rw [hafter]
      refine ⟨_, entry?_request.trans (if_pos rfl), ?_⟩
      rw [if_pos hsome]
      exact ⟨rfl, rfl⟩

/-- A source is compiled, invalidated, and compiled again by a call before the timer elapses. -/
def absorbedRun : List CacheEvent :=
  [.get exampleSource, .finish (exampleTask 0 0) (.failed default),
    .invalidate exampleSource 0, .recompile exampleSource,
    .finish (exampleTask 1 0) (.failed default)]

theorem allowsAll_absorbedRun : (initial 100).AllowsAll absorbedRun := by decide +kernel

theorem entry?_absorbedRun : ∃ e ∈ entry? ((initial 100).afterAll absorbedRun) exampleView,
    e.phase = .idle ∧ ((initial 100).afterAll absorbedRun).HasTimer exampleView e := by
  decide +kernel

/-- That entry is one of the exceptions: the call came after the invalidation. -/
theorem absorbed_absorbedRun : Absorbed ((initial 100).record absorbedRun) exampleView := by
  obtain ⟨e, he, hidle, htimer⟩ := entry?_absorbedRun
  have hexact := phase_exact_iff 100 absorbedRun allowsAll_absorbedRun exampleView e he
  exact (hexact.2.1.1 hidle).2 htimer

/-- The phase of that entry is not exact, and its timer starts a third task. -/
theorem phase_not_exact :
    (initial 100).AllowsAll absorbedRun ∧
    (∃ e ∈ entry? ((initial 100).afterAll absorbedRun) exampleView,
      e.phase = .idle ∧ ¬((initial 100).afterAll absorbedRun).PhaseExact exampleView e) ∧
    ((initial 100).afterAll absorbedRun).started
      (.elapse { due := 100, key := exampleView, epoch := 0, generation := 1 }) =
        [exampleTask 2 0] := by
  refine ⟨allowsAll_absorbedRun, ?_, by decide +kernel⟩
  obtain ⟨e, he, hidle, htimer⟩ := entry?_absorbedRun
  exact ⟨e, he, hidle, fun hexact => (hexact.1 hidle).2 htimer⟩

end CompileCache

end AsmExplorer
