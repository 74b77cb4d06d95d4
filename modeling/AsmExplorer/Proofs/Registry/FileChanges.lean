import AsmExplorer.Proofs.Registry.Work

/-!
# No change of a file is lost

When a file is saved, the views that depend on it are to be compiled again: those of which it is the
source, and those whose stored listing came from it.  The call may come at any time, and whatever
else happens then, a compilation of each of these views starts after the call, unless the view is
closed first (`file_change_compiles`).

Two things can be the case for such a view.  If its source is tracked, the call invalidates the
entry, and a compilation is owed (`CompileCache.Owed`) until one starts.  If not, its first
compilation is due, and that has not started yet.

Which files a view depends on is known from the listing that is stored, and only from that.  While
the first compilation runs, and after one that failed, there is none; then a change of a file that
the listing came from, or is about to come from, goes unnoticed (`header_change_missed`).
-/

namespace AsmExplorer

namespace ViewRegistry

/-- A run starts a compilation of the source of a view. -/
def Compiles (r : ViewRegistry) (events : List RegistryEvent) (key : Uri) : Prop :=
  r.cache.Compiles (r.cacheRun events) key

/-- A compilation of the source of a view is going to start: a task is queued behind the one that
runs, or the timer of the latest invalidation is set; or else the source is not tracked and its
first compilation is due. -/
def Scheduled (r : ViewRegistry) (key : Uri) : Prop :=
  (∃ e, r.cache.entry? key = some e ∧
    (e.inFlight.isSome ∧ e.rerun = true ∨ r.cache.HasTimer key e)) ∨
    r.cache.entry? key = none ∧ ∃ source ∈ r.opening, assemblyUri source = .ok key

variable {r : ViewRegistry} {key : Uri} {marks : List CacheMark} {d : ViewDocuments}

theorem compiles_append (events later : List RegistryEvent) : r.Compiles (events ++ later) key ↔
    r.Compiles events key ∨ (r.afterAll events).Compiles later key := by
  rw [Compiles, cacheRun_append, CompileCache.compiles_append, ← cache_afterAll]
  rfl

/-! ### What is owed to a view -/

/-- After the invalidation of some sources, a compilation of each is owed. -/
theorem owed_invalidate {c : CompileCache} (hc : c.Accounted) {sources : List Uri} (now : Nat)
    (h : c.Owed marks key ∨ ∃ source ∈ sources, assemblyUri source = .ok key) :
    CompileCache.Owed (c.record (sources.map (.invalidate · now)) ++ marks)
      (c.afterAll (sources.map (.invalidate · now))) key := by
  induction sources generalizing c marks with
  | nil => exact h.resolve_right (by simp)
  | cons source sources ih =>
    have hnext : CompileCache.Owed (c.marks (.invalidate source now) ++ marks)
        (c.after (.invalidate source now)) key ∨ ∃ s ∈ sources, assemblyUri s = .ok key := by
      obtain howed | ⟨s, hs, hk⟩ := h
      · exact .inl (howed.after hc trivial (by simp [hc.started_invalidate]))
      · obtain rfl | hs := List.mem_cons.1 hs
        · exact .inl (hc.owed_invalidate now hk)
        · exact .inr ⟨s, hs, hk⟩
    have hallowed : c.Allows (.invalidate source now) := trivial
    have hrest := ih (hc.after hallowed) hnext
    rw [← List.append_assoc] at hrest
    exact hrest

theorem dependsOn_iff {source file : Uri} : r.dependsOn source file = true ↔
    source = file ∨ ∃ unit, r.cache.unit? source = some unit ∧ unit.references file = true := by
  simp only [dependsOn, Bool.or_eq_true, beq_iff_eq, Option.any_eq_true]

/-- After a change of a file, a compilation of every view that depends on it is owed. -/
theorem Wired.owed_fileChanged (h : r.Wired) (hr : CompileCache.Remembered marks r.cache)
    (hd : d ∈ r.documents) {file : Uri} (now : Nat) (hdep : r.dependsOn d.primary file = true) :
    ∃ marks', CompileCache.Remembered marks' (r.after (.fileChanged file now)).cache ∧
      CompileCache.Owed marks' (r.after (.fileChanged file now)).cache d.assembly := by
  have hallowed : r.cache.AllowsAll (r.cacheEvents (.fileChanged file now)) :=
    allowsAll_cacheEvents trivial
  rw [cache_after]
  refine ⟨_, hr.afterAll hallowed, owed_invalidate h.accounted now (.inr ?_)⟩
  refine ⟨d.primary, ?_, h.keys d hd⟩
  obtain ⟨v, hv, rfl⟩ := List.mem_map.1 hd
  exact List.mem_filter.2 ⟨List.mem_map_of_mem hv, hdep⟩

theorem Wired.scheduled_of_owed (h : r.Wired) (hr : CompileCache.Remembered marks r.cache)
    (hd : d ∈ r.documents) (howed : r.cache.Owed marks d.assembly) : r.Scheduled d.assembly := by
  cases he : r.cache.entry? d.assembly with
  | some e =>
    have hrequest := (hr.entries _ e he).request (howed e he)
    have haccounts := h.accounted.entries _ e he
    exact .inl ⟨e, he, hrequest.imp_left fun hrerun => ⟨haccounts.rerun hrerun, hrerun⟩⟩
  | none =>
    have hopening := (h.tracked d hd).resolve_left (by simp [he])
    exact .inr ⟨he, d.primary, hopening, h.keys d hd⟩

theorem Wired.not_scheduled_of_quiet (h : r.Wired) (hq : r.Quiet) : ¬r.Scheduled key := by
  obtain ⟨htimers, hrunning, hopening⟩ := hq
  rintro (⟨e, he, ⟨hflight, -⟩ | ⟨t, ht, -⟩⟩ | ⟨-, source, hs, -⟩)
  · -- the task in flight would be running
    obtain ⟨id, hid⟩ := Option.isSome_iff_exists.1 hflight
    have htasks := (h.accounted.entries _ e he).tasks
    rw [hid, CompileCache.tasksOf, hrunning] at htasks
    cases htasks
  · simp [htimers] at ht
  · simp [hopening] at hs

theorem Quiet.not_compiles (hq : r.Quiet) {work : List RegistryEvent} (ha : r.AllowsAll work)
    (hw : ∀ event ∈ work, event.IsWork) : ¬r.Compiles work key := by
  rw [Compiles, hq.cacheRun_eq_nil ha hw]
  rintro ⟨t, ht, -⟩
  cases ht

/-! ### Runs -/

theorem mem_documents_afterAll {later : List RegistryEvent} (hd : d ∈ r.documents)
    (hopen : ∀ event ∈ later, ¬event.Closes d.assembly) : d ∈ (r.afterAll later).documents := by
  induction later generalizing r with
  | nil => exact hd
  | cons event later ih =>
    have hnext := mem_documents_after hd (hopen event List.mem_cons_self)
    exact ih hnext fun event he => hopen event (List.mem_cons_of_mem _ he)

/-- In every state that a run reaches, the cache remembers what was asked for. -/
theorem remembered_afterAll {settings : SyncSettings} {host : Host} {debounce : Nat}
    {events : List RegistryEvent} (h : (initial settings host debounce).AllowsAll events) :
    ∃ marks, CompileCache.Remembered marks
      ((initial settings host debounce).afterAll events).cache := by
  have hcache := (CompileCache.remembered_initial debounce).afterAll (allowsAll_cacheRun h)
  exact ⟨_, (cache_afterAll (initial settings host debounce) events).symm ▸ hcache⟩

/-- A compilation that is owed to a view starts, or is scheduled, as long as the view is open. -/
theorem Wired.compiles_or_scheduled (h : r.Wired) (hr : CompileCache.Remembered marks r.cache)
    (hd : d ∈ r.documents) (howed : r.cache.Owed marks d.assembly) {later : List RegistryEvent}
    (ha : r.AllowsAll later) (hopen : ∀ event ∈ later, ¬event.Closes d.assembly) :
    r.Compiles later d.assembly ∨ (r.afterAll later).Scheduled d.assembly := by
  have hcache := allowsAll_cacheRun ha
  refine (howed.afterAll h.accounted hcache).imp_right fun howed' => ?_
  have hr' := hr.afterAll hcache
  rw [← cache_afterAll] at howed' hr'
  exact (h.afterAll ha).scheduled_of_owed hr' (mem_documents_afterAll hd hopen) howed'

theorem not_closes_of_isWork {event : RegistryEvent} (hw : event.IsWork) : ¬event.Closes key := by
  cases event <;> first | exact hw.elim | exact id

/-! ### The main result -/

/-- **No change of a file is lost.**  Take any run and a call that reports a change of `file` at its
end, and a view that is open then and whose source `file` is, or whose stored listing came from it.
However the run goes on, as long as the view is not closed:

* a compilation of the view's source has started since the call, or it is scheduled;
* the work that is left, if nothing else happens, comes to an end after `workLeft` steps at most, in
  whatever order it is done, and by then a compilation has started. -/
theorem file_change_compiles (settings : SyncSettings) (host : Host) (debounce : Nat)
    (events later : List RegistryEvent) (file : Uri) (now : Nat) (view : OpenView)
    (h : (initial settings host debounce).AllowsAll (events ++ .fileChanged file now :: later))
    (hview : view ∈ ((initial settings host debounce).afterAll events).views)
    (hdep : view.source = file ∨ ∃ unit,
      ((initial settings host debounce).afterAll events).cache.unit? view.source = some unit ∧
        unit.references file = true)
    (hopen : ∀ event ∈ later, ¬event.Closes view.assembly) :
    let called := ((initial settings host debounce).afterAll events).after (.fileChanged file now)
    let reached := called.afterAll later
    (called.Compiles later view.assembly ∨ reached.Scheduled view.assembly) ∧
      ∀ work, reached.AllowsAll work → (∀ event ∈ work, event.IsWork) →
        work.length ≤ reached.workLeft ∧
          ((∀ event, event.IsWork → ¬(reached.afterAll work).Allows event) →
            called.Compiles (later ++ work) view.assembly) := by
  intro called reached
  obtain ⟨hevents, hcall, hlater⟩ := allowsAll_append.1 h
  -- what is known before the call
  have hwired : ((initial settings host debounce).afterAll events).Wired :=
    (wired_initial settings host debounce).afterAll hevents
  obtain ⟨marks, hremembered⟩ := remembered_afterAll hevents
  have hd : view.sync.docs ∈ ((initial settings host debounce).afterAll events).documents :=
    List.mem_map.2 ⟨view, hview, rfl⟩
  -- what the call does
  obtain ⟨marks', hremembered', howed⟩ :=
    hwired.owed_fileChanged hremembered hd now (dependsOn_iff.2 hdep)
  have hwired' : called.Wired := hwired.after hcall
  have hd' : view.sync.docs ∈ called.documents := mem_documents_after hd id
  -- what follows
  have hrun : ∀ more, called.AllowsAll more → (∀ event ∈ more, ¬event.Closes view.assembly) →
      called.Compiles more view.assembly ∨ (called.afterAll more).Scheduled view.assembly :=
    fun more ha hopen => hwired'.compiles_or_scheduled hremembered' hd' howed ha hopen
  refine ⟨hrun later hlater hopen, fun work ha hw => ⟨?_, fun hstuck => ?_⟩⟩
  · exact (hwired'.afterAll hlater).length_le_workLeft ha hw
  · have hall : called.AllowsAll (later ++ work) := allowsAll_append.2 ⟨hlater, ha⟩
    have hquiet : (called.afterAll (later ++ work)).Quiet := by
      rw [afterAll_append]
      exact quiet_of_stuck hstuck
    refine (hrun (later ++ work) hall fun event he => ?_).resolve_right
      ((hwired'.afterAll hall).not_scheduled_of_quiet hquiet)
    exact (List.mem_append.1 he).elim (hopen event) fun he => not_closes_of_isWork (hw event he)

/-- The header `file:///util.h`. -/
def exampleHeader : Uri :=
  { scheme := "file".toList, authority := some Uri.localAuthority, path := "/util.h".toList
    query := none, fragment := none }

/-- A listing of the source with a line that came from the header. -/
def exampleUnit : CompiledUnit :=
  .ofLines exampleSource exampleView
    [{ text := "ret", source := some { file := .ofText "/util.h", line := 1, column := none } }]

/-- A view is opened and its source is compiled. -/
def compiledRun : List RegistryEvent :=
  [.openView exampleSource, .firstCompile exampleSource,
    .cache (.finish (exampleTask 0 0) (.compiled exampleUnit))]

/-- The timer of an invalidation elapses, and the task that it starts finishes. -/
def timerRun : List RegistryEvent :=
  [.cache (.elapse { due := 110, key := exampleView, epoch := 0, generation := 1 }),
    .cache (.finish (exampleTask 1 0) (.compiled exampleUnit))]

/-- The header changes after the source was compiled, and the source is compiled again. -/
theorem compiles_timerRun :
    (((initial {} {} 100).afterAll compiledRun).after (.fileChanged exampleHeader 10)).Compiles
      timerRun exampleView := by
  have hallowed : (initial {} {} 100).AllowsAll
      (compiledRun ++ .fileChanged exampleHeader 10 :: timerRun) := by decide +kernel
  obtain ⟨view, hview, hsource, hassembly⟩ :
      ∃ view ∈ ((initial {} {} 100).afterAll compiledRun).views,
        view.source = exampleSource ∧ view.assembly = exampleView := by decide +kernel
  have hunit : (((initial {} {} 100).afterAll compiledRun).cache.unit? exampleSource).any
      (·.references exampleHeader) = true := by decide +kernel
  have hdep := (Option.any_eq_true _ _).1 hunit
  rw [← hsource] at hdep
  obtain ⟨hstarts, -⟩ := file_change_compiles {} {} 100 compiledRun timerRun exampleHeader 10 view
    hallowed hview (.inr hdep) (by simp [timerRun, RegistryEvent.Closes])
  rw [hassembly] at hstarts
  -- nothing is scheduled any more
  have hquiet : ((((initial {} {} 100).afterAll compiledRun).after
      (.fileChanged exampleHeader 10)).afterAll timerRun).Quiet := by decide +kernel
  obtain ⟨hcompiled, hcall, htimer⟩ := allowsAll_append.1 hallowed
  have hwired := (((wired_initial {} {} 100).afterAll hcompiled).after hcall).afterAll htimer
  exact hstarts.resolve_right (hwired.not_scheduled_of_quiet hquiet)

/-- A second compilation of the source fails. -/
def failedRun : List RegistryEvent :=
  compiledRun ++ [.settingsChanged [exampleSource],
    .cache (.finish (exampleTask 1 0) (.failed default))]

/-- The first compilation of the source is running. -/
def firstRun : List RegistryEvent :=
  [.openView exampleSource, .firstCompile exampleSource]

/-- A change of the header goes unnoticed after a compilation that failed, though the listing before
came from the header, and while the first compilation runs, though its listing comes from it. -/
theorem header_change_missed :
    exampleUnit.references exampleHeader = true ∧
    (let failed := (initial {} {} 100).afterAll failedRun
      let called := failed.after (.fileChanged exampleHeader 100)
      (initial {} {} 100).AllowsAll failedRun ∧ failed.isOpen exampleView = true ∧
        ∀ work, called.AllowsAll work → (∀ event ∈ work, event.IsWork) →
          ¬called.Compiles work exampleView) ∧
    (let running := (initial {} {} 100).afterAll firstRun
      let called := running.after (.fileChanged exampleHeader 5)
      let finish : RegistryEvent := .cache (.finish (exampleTask 0 0) (.compiled exampleUnit))
      (initial {} {} 100).AllowsAll firstRun ∧ running.isOpen exampleView = true ∧
        called.Allows finish ∧
        ∀ work, (called.after finish).AllowsAll work → (∀ event ∈ work, event.IsWork) →
          ¬called.Compiles (finish :: work) exampleView) := by
  refine ⟨by decide +kernel, ?_, ?_⟩
  · intro failed called
    have hquiet : called.Quiet := by decide +kernel
    exact ⟨by decide +kernel, by decide +kernel, fun work ha hw => hquiet.not_compiles ha hw⟩
  · intro running called finish
    have hquiet : (called.after finish).Quiet := by decide +kernel
    have hnone : called.cache.started (.finish (exampleTask 0 0) (.compiled exampleUnit)) = [] := by
      decide +kernel
    refine ⟨by decide +kernel, by decide +kernel, by decide +kernel, fun work ha hw => ?_⟩
    rw [← List.singleton_append, compiles_append]
    rintro (hfirst | hlater)
    · have hstarted : ∃ t ∈ called.cache.started _, t.key = exampleView :=
        CompileCache.compiles_singleton.1 hfirst
      simp [hnone] at hstarted
    · exact hquiet.not_compiles ha hw hlater

end ViewRegistry

end AsmExplorer
