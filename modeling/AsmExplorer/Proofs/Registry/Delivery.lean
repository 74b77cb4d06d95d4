import AsmExplorer.Proofs.Cache.Isolation
import AsmExplorer.Proofs.Cache.Outcomes
import AsmExplorer.Proofs.Registry.Run
import Mathlib.Data.List.Induction

/-!
# Results reach their views

A result travels from the task that finishes through the cache to the queue of a view, and from
there into the view when it carries the command out.  Nothing is lost on the way and nothing comes
twice or out of order: what waited in the queue of a view, followed by what it was told, is what it
carried out, followed by what waits in its queue (`Wired.exists_after`).

So the units that a view is told are the one that was stored when it was opened, if there was one,
and those that were stored for it since (`told_units`), and when it has carried out all its commands
it holds the one that is stored now (`Informed`).
-/

namespace AsmExplorer

/-- The unit that a view holds when it has carried out all its commands. -/
def OpenView.lastUnit (v : OpenView) : Option UnitState :=
  ((v.queue.filterMap ViewCommand.unit?).getLast?).or v.sync.unit

namespace ViewRegistry

/-- What is seen of the events of a run, in order. -/
def observe {α : Type} (f : ViewRegistry → RegistryEvent → Option α) (r : ViewRegistry) :
    List RegistryEvent → List α
  | [] => []
  | event :: events => (f r event).toList ++ (r.after event).observe f events

/-- The command that the open view of a document carries out. -/
def carriesOut? (assembly : Uri) (r : ViewRegistry) : RegistryEvent → Option ViewCommand
  | .work index =>
    (r.views[index]?).bind fun v => if v.assembly = assembly then v.queue.head? else none
  | _ => none

/-- What is stored for a view: what the task that finishes produced, unless its entry is gone. -/
def stores? (assembly : Uri) (r : ViewRegistry) : RegistryEvent → Option UnitState
  | .cache event => r.cache.stores? assembly event
  | _ => none

/-- The error that is to be shown: the message of a failure that is stored for an open view. -/
def fails? (r : ViewRegistry) : RegistryEvent → Option String
  | .cache (.finish task state) =>
    if r.isOpen task.key then
      ((r.cache.stores? task.key (.finish task state)).bind UnitState.failure?).map
        CompileFailure.message
    else none
  | _ => none

/-- What happens to an open view at an event: it is told something, or carries out its oldest
command. -/
structure Proceeds (r : ViewRegistry) (event : RegistryEvent) (v v' : OpenView) : Prop where
  /-- Its documents stay. -/
  docs : v'.sync.docs = v.sync.docs
  /-- What waited and what it is told is what it carries out and what waits. -/
  queue : ∃ told, v.queue ++ told = (r.carriesOut? v.assembly event).toList ++ v'.queue ∧
    told.filterMap ViewCommand.unit? = (r.stores? v.assembly event).toList
  /-- It holds the unit of the command that it carries out, if it has one. -/
  unit : v'.sync.unit =
    ((r.carriesOut? v.assembly event).bind ViewCommand.unit?).or v.sync.unit

variable {r : ViewRegistry} {event : RegistryEvent} {v v' : OpenView}

theorem observe_append {α : Type} {f : ViewRegistry → RegistryEvent → Option α}
    (events later : List RegistryEvent) :
    r.observe f (events ++ later) = r.observe f events ++ (r.afterAll events).observe f later := by
  induction events generalizing r with
  | nil => rfl
  | cons event events ih =>
    simp only [List.cons_append, observe, afterAll, ih, List.append_assoc]

theorem observe_singleton {α : Type} {f : ViewRegistry → RegistryEvent → Option α} :
    r.observe f [event] = (f r event).toList :=
  List.append_nil _

/-! ### What happens to a view -/

theorem Proceeds.same (hcarries : r.carriesOut? v.assembly event = none)
    (hstores : r.stores? v.assembly event = none) : r.Proceeds event v v := by
  refine ⟨rfl, ⟨[], ?_, ?_⟩, ?_⟩
  · rw [hcarries]
    simp
  · rw [hstores]
    rfl
  · rw [hcarries]
    rfl

theorem Proceeds.send (command : ViewCommand) (hcarries : r.carriesOut? v.assembly event = none)
    (hstores : r.stores? v.assembly event = command.unit?) :
    r.Proceeds event v (v.send command) := by
  refine ⟨rfl, ⟨[command], ?_, ?_⟩, ?_⟩
  · rw [hcarries]
    rfl
  · rw [hstores]
    cases hunit : command.unit? <;> simp [hunit]
  · rw [hcarries]
    rfl

theorem Proceeds.work (hcarries : r.carriesOut? v.assembly event = v.queue.head?)
    (hstores : r.stores? v.assembly event = none) :
    r.Proceeds event v (v.work r.host).1 := by
  refine ⟨docs_work v r.host, ⟨[], ?_, ?_⟩, ?_⟩
  · rw [hcarries, List.append_nil]
    unfold OpenView.work
    cases hqueue : v.queue with
    | nil => simp [hqueue]
    | cons command queue => rfl
  · rw [hstores]
    rfl
  · rw [hcarries]
    unfold OpenView.work
    cases v.queue with
    | nil => rfl
    | cons command queue => exact Synced.unit_handle command

/-- There is only one open view of a document. -/
theorem Wired.eq_of_assembly_eq (h : r.Wired) (hv : v ∈ r.views) (hv' : v' ∈ r.views)
    (ha : v.assembly = v'.assembly) : v = v' := by
  have hnodup : (r.views.map OpenView.assembly).Nodup := by
    have hnodup := h.nodup
    rwa [documents, List.map_map] at hnodup
  exact List.inj_on_of_nodup_map hnodup hv hv' ha

/-- What the end of a task comes to. -/
inductive Finished (r : ViewRegistry) (task : CompileTask) (state : UnitState) :
    ViewRegistry → Prop where
  /-- The outcome is not stored, for its entry is gone. -/
  | discarded : r.cache.stores? task.key (.finish task state) = none →
      Finished r task state { r with cache := r.cache.after (.finish task state) }
  /-- There is no open view. -/
  | unseen : r.isOpen task.key = false →
      Finished r task state { r with cache := r.cache.after (.finish task state) }
  /-- The outcome goes to the open view, and a failure is shown. -/
  | delivered {produced : UnitState} :
      r.cache.stores? task.key (.finish task state) = some produced → r.isOpen task.key = true →
      Finished r task state
        ({ r with
            cache := r.cache.after (.finish task state)
            host :=
              match produced.failure? with
              | some failure => r.host.call (.error failure.message)
              | none => r.host }.sendTo task.key (.unit produced))

theorem finished_spec (r : ViewRegistry) (task : CompileTask) (state : UnitState) :
    Finished r task state (r.after (.cache (.finish task state))) := by
  simp only [after, CompileCache.news, CompileCache.snd_finish]
  cases hstores : r.cache.stores? task.key (.finish task state) with
  | none => exact .discarded hstores
  | some produced =>
    have hopen' : { r with cache := r.cache.after (.finish task state) }.isOpen task.key =
        r.isOpen task.key := rfl
    cases hopen : r.isOpen task.key with
    | false =>
      simp only [Option.map_some, told, unitChanged, hopen', hopen, Bool.false_eq_true, ↓reduceIte]
      exact .unseen hopen
    | true =>
      simp only [Option.map_some, told, unitChanged, hopen', hopen, ↓reduceIte]
      exact .delivered hstores hopen

theorem exists_told (hv : v ∈ r.views) (event : CacheEvent) :
    ∃ v' ∈ (r.after (.cache event)).views, r.Proceeds (.cache event) v v' := by
  cases event with
  | finish task state =>
    have hfinished := finished_spec r task state
    generalize r.after (.cache (.finish task state)) = r' at hfinished
    by_cases hk : v.assembly = task.key
    · cases hfinished with
      | discarded hnone => exact ⟨v, hv, .same rfl (hk ▸ hnone)⟩
      | unseen hclosed =>
        rw [← hk, isOpen_of_mem hv] at hclosed
        cases hclosed
      | @delivered produced hstores =>
        refine ⟨v.send (.unit produced), ?_, .send (.unit produced) rfl (hk ▸ hstores)⟩
        exact List.mem_map.2 ⟨v, hv, if_pos hk⟩
    · -- the outcome is for another view
      have hother : r.stores? v.assembly (.cache (.finish task state)) = none :=
        CompileCache.stores?_other (Ne.symm hk)
      refine ⟨v, ?_, .same rfl hother⟩
      cases hfinished with
      | discarded | unseen => exact hv
      | delivered => exact List.mem_map.2 ⟨v, hv, if_neg hk⟩
  | _ => exact ⟨v, hv, .same rfl rfl⟩

theorem Wired.exists_worked (h : r.Wired) (hv : v ∈ r.views) (index : Nat) :
    ∃ v' ∈ (r.after (.work index)).views, r.Proceeds (.work index) v v' := by
  cases hw : r.views[index]? with
  | none =>
    have hnone : r.carriesOut? v.assembly (.work index) = none := by
      simp only [carriesOut?, hw, Option.bind_none]
    refine ⟨v, ?_, .same hnone rfl⟩
    simp only [ViewRegistry.after, worked, hw]
    exact hv
  | some w =>
    have hviews : (r.after (.work index)).views = r.views.set index (w.work r.host).1 := by
      simp only [ViewRegistry.after, worked, hw]
    have hlt : index < r.views.length := (List.getElem?_eq_some_iff.1 hw).1
    by_cases hk : w.assembly = v.assembly
    · -- it is this view that works
      obtain rfl : w = v := h.eq_of_assembly_eq (List.mem_of_getElem? hw) hv hk
      have hhead : r.carriesOut? w.assembly (.work index) = w.queue.head? := by
        simp only [carriesOut?, hw, Option.bind_some, ↓reduceIte]
      refine ⟨(w.work r.host).1, ?_, .work hhead rfl⟩
      rw [hviews]
      exact List.mem_set hlt _
    · have hnone : r.carriesOut? v.assembly (.work index) = none := by
        simp only [carriesOut?, hw, Option.bind_some, hk, ↓reduceIte]
      refine ⟨v, ?_, .same hnone rfl⟩
      obtain ⟨i, hi⟩ := List.getElem?_of_mem hv
      have hne : index ≠ i := by
        rintro rfl
        rw [hw, Option.some.injEq] at hi
        exact hk (hi ▸ rfl)
      rw [hviews]
      refine List.mem_of_getElem? (i := i) ?_
      rw [List.getElem?_set_ne hne]
      exact hi

/-- **A view that stays open proceeds.** -/
theorem Wired.exists_after (h : r.Wired) (hv : v ∈ r.views) (hopen : ¬event.Closes v.assembly) :
    ∃ v' ∈ (r.after event).views, r.Proceeds event v v' := by
  cases event with
  | cache event => exact exists_told hv event
  | work index => exact h.exists_worked hv index
  | selectionChanged change =>
    exact ⟨_, List.mem_map_of_mem hv, .send (.selection change) rfl rfl⟩
  | visibleEditorsChanged =>
    exact ⟨_, List.mem_map_of_mem hv, .send .visibleEditorsChanged rfl rfl⟩
  | openView source =>
    refine ⟨v, ?_, .same rfl rfl⟩
    have hopened := opened_spec r source
    change v ∈ (r.opened source).views
    generalize r.opened source = r' at hopened
    cases hopened with
    | refused | already => exact hv
    | stored | fresh => exact List.mem_append_left _ hv
  | closeView assembly =>
    refine ⟨v, ?_, .same rfl rfl⟩
    have hne : v.assembly ≠ assembly := fun heq => hopen heq.symm
    simp only [ViewRegistry.after, closeView]
    split
    · exact hv
    · exact List.mem_filter.2 ⟨hv, by simpa using hne⟩
  | closeAll => exact absurd trivial hopen
  | content assembly =>
    refine ⟨v, ?_, .same rfl rfl⟩
    simp only [ViewRegistry.after, content?]
    cases sourceOfAssembly? assembly <;> exact hv
  | workClosing index =>
    refine ⟨v, ?_, .same rfl rfl⟩
    simp only [ViewRegistry.after, workedClosing]
    split
    · exact hv
    · split <;> exact hv
  | editorsChanged | fileChanged | settingsChanged | firstCompile => exact ⟨v, hv, .same rfl rfl⟩

/-- A view that has just been opened is told the stored state, if there is one. -/
structure New (r : ViewRegistry) (source : Uri) (v : OpenView) : Prop where
  /-- The view is that of the source. -/
  primary : v.source = source
  /-- Its document is that of the source. -/
  key : assemblyUri source = .ok v.assembly
  /-- It was not open. -/
  closed : r.isOpen v.assembly = false
  /-- It holds no unit. -/
  unit : v.sync.unit = none
  /-- It is told what is stored. -/
  told : v.queue.filterMap ViewCommand.unit? = (r.cache.state? v.assembly).toList

theorem Opened.mem_views {source : Uri} {r' : ViewRegistry} (h : Opened r source r')
    (hv : v ∈ r'.views) : v ∈ r.views ∨ r.New source v := by
  -- what the cases with a new view have in common
  have hlast : ∀ {w : OpenView} {assembly : Uri}, assemblyUri source = .ok assembly →
      r.isOpen assembly = false → w.sync = (r.newView source assembly).sync →
      w.queue.filterMap ViewCommand.unit? =
        ((r.cache.stored? source).map CompileOutcome.state).toList →
      v ∈ r.views ++ [w] → v ∈ r.views ∨ r.New source v := by
    intro w assembly hkey hopen hsync htold hmem
    obtain hmem | hmem := List.mem_append.1 hmem
    · exact .inl hmem
    · rw [List.mem_singleton] at hmem
      subst hmem
      have hassembly : v.assembly = assembly := by rw [OpenView.assembly, hsync]; rfl
      rw [CompileCache.map_stored? hkey] at htold
      refine .inr ⟨?_, hassembly ▸ hkey, hassembly ▸ hopen, ?_, hassembly ▸ htold⟩
      · rw [OpenView.source, hsync]
        rfl
      · rw [hsync]
        rfl
  cases h with
  | refused | already => exact .inl hv
  | stored hkey hopen hstored | fresh hkey hopen hstored =>
    refine hlast hkey hopen ?_ ?_ hv
    · rfl
    · rw [hstored]
      rfl

/-- **An open view was open before the event, or it has just been opened.** -/
theorem Wired.exists_before (h : r.Wired) (ha : r.Allows event)
    (hv' : v' ∈ (r.after event).views) :
    (∃ v ∈ r.views, ¬event.Closes v.assembly ∧ r.Proceeds event v v') ∨
      ∃ source, event = .openView source ∧ r.New source v' := by
  have hold : ∀ v ∈ r.views, v.sync.docs = v'.sync.docs →
      ∃ v ∈ r.views, ¬event.Closes v.assembly ∧ r.Proceeds event v v' := by
    intro v hv hdocs
    have hassembly : v.assembly = v'.assembly := congrArg ViewDocuments.assembly hdocs
    have hd' : v'.sync.docs ∈ (r.after event).documents := List.mem_map_of_mem hv'
    have hopen : ¬event.Closes v.assembly := by
      rw [documents_after] at hd'
      cases event with
      | closeView assembly =>
        intro heq
        have hne : v'.assembly ≠ assembly := by
          simpa [OpenView.assembly] using (List.mem_filter.1 hd').2
        exact hne (hassembly.symm.trans (Eq.symm heq))
      | closeAll => cases hd'
      | _ => exact id
    obtain ⟨w, hw, hproceeds⟩ := h.exists_after hv hopen
    -- no other view has that document
    obtain rfl : w = v' := (h.after ha).eq_of_assembly_eq hw hv'
      (congrArg ViewDocuments.assembly (hproceeds.docs.trans hdocs))
    exact ⟨v, hv, hopen, hproceeds⟩
  by_cases hevent : ∃ source, event = .openView source
  · obtain ⟨source, rfl⟩ := hevent
    obtain hmem | hnew := (opened_spec r source).mem_views hv'
    · exact .inl (hold v' hmem rfl)
    · exact .inr ⟨source, rfl, hnew⟩
  · have hsub := documents_sublist (r := r) fun source heq => hevent ⟨source, heq⟩
    obtain ⟨v, hv, hdocs⟩ := List.mem_map.1 (hsub.subset (List.mem_map_of_mem hv'))
    exact .inl (hold v hv hdocs)

/-! ### What a view was told -/

/-- **What a view was told.**  A view that is open was opened at some event and stayed open since.
The units that it has carried out and those that wait are the one that was stored then and those
that were stored since. -/
theorem Wired.told_units (h : r.Wired) {events : List RegistryEvent} (ha : r.AllowsAll events)
    (hviews : r.views = []) (hv : v ∈ (r.afterAll events).views) :
    ∃ before later, events = before ++ .openView v.source :: later ∧
      (r.afterAll before).isOpen v.assembly = false ∧
      (∀ event ∈ later, ¬event.Closes v.assembly) ∧
      (((r.afterAll before).after (.openView v.source)).observe (carriesOut? v.assembly) later ++
          v.queue).filterMap ViewCommand.unit? =
        ((r.afterAll before).cache.state? v.assembly).toList ++
          ((r.afterAll before).after (.openView v.source)).observe (stores? v.assembly) later := by
  -- by induction on the run, from its end
  induction events using List.reverseRecOn generalizing v with
  | nil =>
    have hmem : v ∈ r.views := hv
    simp [hviews] at hmem
  | append_singleton events event ih =>
    obtain ⟨hevents, hevent, -⟩ := allowsAll_append.1 ha
    rw [afterAll_append] at hv
    obtain ⟨w, hw, hopen, hproceeds⟩ | ⟨source, rfl, hnew⟩ :=
      (h.afterAll hevents).exists_before hevent hv
    · obtain ⟨before, later, rfl, hclosed, hstays, hunits⟩ := ih hevents hw
      have hsource : v.source = w.source := congrArg ViewDocuments.primary hproceeds.docs
      have hassembly : v.assembly = w.assembly := congrArg ViewDocuments.assembly hproceeds.docs
      have hreached : ((r.afterAll before).after (.openView w.source)).afterAll later =
          r.afterAll (before ++ .openView w.source :: later) := by
        rw [afterAll_append]
        rfl
      obtain ⟨told, hqueue, htold⟩ := hproceeds.queue
      refine ⟨before, later ++ [event], ?_, ?_, ?_, ?_⟩
      · rw [hsource, List.append_assoc, List.cons_append]
      · rw [hassembly]
        exact hclosed
      · intro event' he
        rw [hassembly]
        obtain he | he := List.mem_append.1 he
        · exact hstays event' he
        · rw [List.mem_singleton] at he
          exact he ▸ hopen
      · -- what is told at the last event is what is stored then
        rw [hsource, hassembly, observe_append, observe_append, observe_singleton,
          observe_singleton, hreached, List.append_assoc, ← hqueue, ← List.append_assoc,
          List.filterMap_append, hunits, htold, List.append_assoc]
    · have hsource : v.source = source := hnew.primary
      refine ⟨events, [], by rw [hsource], hnew.closed, by simp, ?_⟩
      rw [observe, observe, List.nil_append, List.append_nil]
      exact hnew.told

/-! ### What a view holds -/

/-- When a view has carried out all its commands, it holds the unit that is stored now. -/
def Informed (r : ViewRegistry) : Prop :=
  ∀ v ∈ r.views, v.lastUnit = r.cache.state? v.assembly

theorem or_or_getLast? (u : Option UnitState) (l l' : List UnitState) :
    (l ++ l').getLast?.or u = l'.getLast?.or (l.getLast?.or u) := by
  rw [List.getLast?_append, Option.or_assoc]

theorem Proceeds.lastUnit (h : r.Proceeds event v v') :
    v'.lastUnit = (r.stores? v.assembly event).or v.lastUnit := by
  obtain ⟨told, hqueue, htold⟩ := h.queue
  have hunits := congrArg (List.filterMap ViewCommand.unit?) hqueue
  rw [List.filterMap_append, List.filterMap_append, htold] at hunits
  have hcarried : ((r.carriesOut? v.assembly event).toList.filterMap
      ViewCommand.unit?).getLast?.or v.sync.unit = v'.sync.unit := by
    rw [h.unit]
    cases r.carriesOut? v.assembly event with
    | none => rfl
    | some command => cases hunit : command.unit? <;> simp [hunit]
  have hstored : (r.stores? v.assembly event).toList.getLast? = r.stores? v.assembly event := by
    cases r.stores? v.assembly event <;> rfl
  calc v'.lastUnit
      = (((r.carriesOut? v.assembly event).toList.filterMap ViewCommand.unit? ++
          v'.queue.filterMap ViewCommand.unit?).getLast?).or v.sync.unit := by
        rw [or_or_getLast?, hcarried]
        rfl
    _ = ((v.queue.filterMap ViewCommand.unit? ++
          (r.stores? v.assembly event).toList).getLast?).or v.sync.unit := by rw [hunits]
    _ = (r.stores? v.assembly event).or v.lastUnit := by
        rw [or_or_getLast?, hstored]
        rfl

/-- What an event stores for a view that stays open. -/
theorem Wired.state?_after (h : r.Wired) (ha : r.Allows event) {d : ViewDocuments}
    (hd : d ∈ r.documents) (hopen : ¬event.Closes d.assembly) :
    (r.after event).cache.state? d.assembly =
      (r.stores? d.assembly event).or (r.cache.state? d.assembly) := by
  have hd' : d ∈ (r.after event).documents := mem_documents_after hd hopen
  have hkept : ∀ source, .dispose source ∈ r.cacheEvents event →
      assemblyUri source ≠ .ok d.assembly := fun source hmem => h.dispose_ne ha hd' hd hmem
  have hquiet : (∀ task state, .finish task state ∉ r.cacheEvents event) →
      (r.after event).cache.state? d.assembly = r.cache.state? d.assembly := fun hfinish => by
    rw [cache_after]
    exact h.accounted.state?_afterAll (allowsAll_cacheEvents ha) hfinish hkept
  cases event with
  | cache event =>
    have ha' : r.cache.Allows event := (allowsAll_cacheEvents ha).1
    obtain ⟨_, hstep⟩ := h.accounted.step_after ha'
    rw [cache_after]
    refine hstep.state?_eq h.accounted.numbered fun source heq => ?_
    exact hkept source (List.mem_singleton.2 heq.symm)
  | _ => exact hquiet (by simp [cacheEvents])

/-- **Every event keeps the views informed.** -/
theorem Informed.after (h : r.Informed) (hw : r.Wired) (ha : r.Allows event) :
    (r.after event).Informed := by
  intro v' hv'
  obtain ⟨v, hv, hopen, hproceeds⟩ | ⟨source, rfl, hnew⟩ := hw.exists_before ha hv'
  · have hassembly : v'.assembly = v.assembly := congrArg ViewDocuments.assembly hproceeds.docs
    have hstate := hw.state?_after ha (List.mem_map_of_mem hv) hopen
    rw [hproceeds.lastUnit, h v hv, hassembly]
    exact hstate.symm
  · have hcache : ((r.after (.openView source)).cache) = r.cache := (opened_spec r source).cache_eq
    rw [hcache, OpenView.lastUnit, hnew.told, hnew.unit, Option.or_none]
    cases r.cache.state? v'.assembly <;> rfl

theorem informed_afterAll {events : List RegistryEvent} (h : r.Informed) (hw : r.Wired)
    (ha : r.AllowsAll events) : (r.afterAll events).Informed := by
  have hrun := run_induction (I := fun r => r.Wired ∧ r.Informed)
    (fun _ _ hI ha => ⟨hI.1.after ha, hI.2.after hI.1 ha⟩) ⟨hw, h⟩ ha
  exact hrun.2

/-- When no task runs and no first compilation is due, something is stored for every open view. -/
theorem Wired.isSome_state? (h : r.Wired) (hv : v ∈ r.views) (hrunning : r.cache.running = [])
    (hopening : r.opening = []) : (r.cache.state? v.assembly).isSome := by
  obtain ⟨e, he⟩ | hdue := h.tracked _ (List.mem_map_of_mem hv)
  · have hacc := h.accounted.entries _ e he
    have hnone : e.inFlight = none := by
      have htasks := hacc.tasks
      rw [CompileCache.tasksOf, hrunning] at htasks
      simpa using htasks.symm
    have hout : e.outcome.isSome := by simpa [hnone] using hacc.settled
    have hstate : r.cache.state? v.assembly = e.outcome.map CompileOutcome.state :=
      CompileCache.state?_eq_of_entry he
    rw [hstate, Option.isSome_map]
    exact hout
  · simp [hopening] at hdue

/-! ### Errors -/

@[simp] theorem errors_work (v : OpenView) (host : Host) :
    (v.work host).2.errors = host.errors := by
  unfold OpenView.work
  split
  · rfl
  · exact Synced.errors_handle _

/-- **An error is shown for a failure that is stored for an open view, and for nothing else.** -/
theorem errors_after (r : ViewRegistry) (event : RegistryEvent) :
    (r.after event).host.errors = r.host.errors ++ (r.fails? event).toList := by
  have hnone : ∀ {r' : ViewRegistry}, r'.host.errors = r.host.errors → r.fails? event = none →
      r'.host.errors = r.host.errors ++ (r.fails? event).toList := by
    intro r' hsame hfails
    rw [hsame, hfails]
    exact (List.append_nil _).symm
  cases event with
  | cache event =>
    cases event with
    | finish task state =>
      have hfinished := finished_spec r task state
      generalize r.after (.cache (.finish task state)) = r' at hfinished ⊢
      cases hfinished with
      | discarded hnot => exact hnone rfl (by simp [fails?, hnot])
      | unseen hclosed => exact hnone rfl (by simp [fails?, hclosed])
      | @delivered produced hstores hopen =>
        simp only [fails?, hopen, hstores, ↓reduceIte, Option.bind_some, sendTo]
        cases produced.failure? with
        | none => exact (List.append_nil _).symm
        | some failure => rfl
    | _ => exact hnone rfl rfl
  | openView source =>
    refine hnone ?_ rfl
    have hopened := opened_spec r source
    change (r.opened source).host.errors = _
    generalize r.opened source = r' at hopened
    cases hopened <;> rfl
  | closeView assembly =>
    refine hnone ?_ rfl
    simp only [after, closeView]
    split <;> rfl
  | content assembly =>
    refine hnone ?_ rfl
    simp only [after, content?]
    cases sourceOfAssembly? assembly <;> rfl
  | work index =>
    refine hnone ?_ rfl
    simp only [after, worked]
    split
    · rfl
    · exact errors_work _ _
  | workClosing index =>
    refine hnone ?_ rfl
    simp only [after, workedClosing]
    split
    · rfl
    · split
      · rfl
      · exact errors_work _ _
  | closeAll | selectionChanged | visibleEditorsChanged | editorsChanged | fileChanged
  | settingsChanged | firstCompile => exact hnone rfl rfl

theorem errors_afterAll (r : ViewRegistry) (events : List RegistryEvent) :
    (r.afterAll events).host.errors = r.host.errors ++ r.observe fails? events := by
  induction events generalizing r with
  | nil => exact (List.append_nil _).symm
  | cons event events ih =>
    rw [afterAll, ih, errors_after, observe, List.append_assoc]

/-! ### Tasks that finish late -/

/-- A task for a view that is not open tells nobody anything. -/
theorem after_finish_of_not_isOpen {task : CompileTask} (hclosed : r.isOpen task.key = false)
    (state : UnitState) : r.after (.cache (.finish task state)) =
      { r with cache := r.cache.after (.finish task state) } := by
  have hfinished := finished_spec r task state
  generalize r.after (.cache (.finish task state)) = r' at hfinished
  cases hfinished with
  | discarded | unseen => rfl
  | delivered _ hopen => simp [hclosed] at hopen

theorem after_finish_of_gone {task : CompileTask} (hgone : r.cache.Gone task.key task.epoch)
    (state : UnitState) : r.after (.cache (.finish task state)) =
      { r with cache := r.cache.withoutTask task } := by
  simp only [after, CompileCache.news, CompileCache.after, hgone.finish]
  rfl

/-- When a view is closed, the entry of every task that runs for it is gone for good. -/
theorem Wired.gone_of_closed (h : r.Wired) {assembly : Uri} (hopen : r.isOpen assembly = true)
    {later : List RegistryEvent} (ha : r.AllowsAll (.closeView assembly :: later))
    {task : CompileTask} (ht : task ∈ r.cache.running) (hk : task.key = assembly) :
    (r.afterAll (.closeView assembly :: later)).cache.Gone task.key task.epoch := by
  obtain ⟨v, hv⟩ := Option.isSome_iff_exists.1 hopen
  have hkey : assemblyUri v.source = .ok task.key := by
    rw [hk]
    exact h.key_of_view? hv
  have hcache : (r.after (.closeView assembly)).cache = r.cache.after (.dispose v.source) := by
    rw [cache_after, cacheEvents, hv]
    rfl
  have hgone : (r.after (.closeView assembly)).cache.Gone task.key task.epoch := by
    rw [hcache]
    exact CompileCache.gone_dispose hkey (h.accounted.epochs task ht)
  rw [ViewRegistry.afterAll, cache_afterAll]
  exact hgone.afterAll (h.after ha.1).accounted (allowsAll_cacheRun ha.2)

/-! ### The main result -/

/-- **Results reach their views.**  In every state that a run reaches:

* A view that is open was opened at some event and stayed open since.  The units that it was told,
  those it has carried out and those that wait, are the one that was stored when it was opened, if
  there was one, and then those that were stored for it since, in this order and each once.
* The errors that were shown are the messages of the failures that were stored for views that were
  open then, in this order and each once.
* When an open view has carried out all its commands, no task runs and no first compilation is due,
  a state is stored for its source, and it is the unit that the view holds.
* A task for a view that is not open changes nothing but the cache when it finishes.  So does a task
  that ran when its view was closed, even if the view is open again. -/
theorem results_delivered (settings : SyncSettings) (host : Host) (debounce : Nat)
    (events : List RegistryEvent) (h : (initial settings host debounce).AllowsAll events) :
    let start := initial settings host debounce
    let r := start.afterAll events
    (∀ v ∈ r.views, ∃ before later, events = before ++ .openView v.source :: later ∧
      (start.afterAll before).isOpen v.assembly = false ∧
      (∀ event ∈ later, ¬event.Closes v.assembly) ∧
      let opened := (start.afterAll before).after (.openView v.source)
      (opened.observe (carriesOut? v.assembly) later ++ v.queue).filterMap ViewCommand.unit? =
        ((start.afterAll before).cache.stored? v.source).toList.map CompileOutcome.state ++
          opened.observe (stores? v.assembly) later) ∧
    r.host.errors = host.errors ++ start.observe fails? events ∧
    (∀ v ∈ r.views, v.queue = [] → r.cache.running = [] → r.opening = [] →
      ∃ outcome, r.cache.stored? v.source = some outcome ∧ v.sync.unit = some outcome.state) ∧
    (∀ task state, r.isOpen task.key = false → r.after (.cache (.finish task state)) =
      { r with cache := r.cache.after (.finish task state) }) ∧
    ∀ before assembly later, events = before ++ .closeView assembly :: later →
      (start.afterAll before).isOpen assembly = true →
      ∀ task ∈ (start.afterAll before).cache.running, task.key = assembly → ∀ state,
        r.after (.cache (.finish task state)) =
          { r with cache := r.cache.withoutTask task } := by
  intro start r
  have hstart : start.Wired := wired_initial settings host debounce
  have hr : r.Wired := hstart.afterAll h
  have hkey : ∀ v ∈ r.views, assemblyUri v.source = .ok v.assembly := fun v hv =>
    hr.keys _ (List.mem_map_of_mem hv)
  refine ⟨fun v hv => ?_, errors_afterAll start events, fun v hv hqueue hrunning hopening => ?_,
    fun task state hclosed => after_finish_of_not_isOpen hclosed state, ?_⟩
  · obtain ⟨before, later, heq, hclosed, hopen, hunits⟩ := hstart.told_units h rfl hv
    refine ⟨before, later, heq, hclosed, hopen, ?_⟩
    have hstored : ((start.afterAll before).cache.stored? v.source).toList.map
        CompileOutcome.state = ((start.afterAll before).cache.state? v.assembly).toList := by
      rw [← CompileCache.map_stored? (hkey v hv)]
      cases (start.afterAll before).cache.stored? v.source <;> rfl
    rw [hstored]
    exact hunits
  · have hinformed : r.Informed := informed_afterAll (fun v hv => by cases hv) hstart h
    have hlast := hinformed v hv
    rw [OpenView.lastUnit, hqueue] at hlast
    obtain ⟨state, hstate⟩ := Option.isSome_iff_exists.1 (hr.isSome_state? hv hrunning hopening)
    have hunit : v.sync.unit = some state := hlast.trans hstate
    rw [← CompileCache.map_stored? (hkey v hv), Option.map_eq_some_iff] at hstate
    obtain ⟨outcome, hstored, rfl⟩ := hstate
    exact ⟨outcome, hstored, hunit⟩
  · rintro before assembly later rfl hopen task ht hk state
    obtain ⟨hbefore, hlater⟩ := allowsAll_append.1 h
    have hgone := (hstart.afterAll hbefore).gone_of_closed hopen hlater ht hk
    rw [← afterAll_append] at hgone
    exact after_finish_of_gone hgone state

/-- The failure of a compilation of the source. -/
def exampleFailure : UnitState :=
  .failed { source := exampleSource, message := "expected ;" }

/-- A view is opened and closed while its first compilation runs, and opened again. -/
def lateRun : List RegistryEvent :=
  [.openView exampleSource, .firstCompile exampleSource, .closeView exampleView,
    .openView exampleSource, .firstCompile exampleSource]

/-- The first task finishes late, the second one fails, and the view carries out its commands. -/
def reopenedRun : List RegistryEvent :=
  lateRun ++ [.cache (.finish (exampleTask 0 0) (.failed default)),
    .cache (.finish (exampleTask 1 1) exampleFailure), .work 0, .work 0]

/-- The open view holds the failure of the second task, which is stored, and one error is shown.
The first task finishes without a trace. -/
theorem delivered_reopenedRun :
    ((initial {} {} 100).afterAll reopenedRun).host.errors = ["expected ;"] ∧
    (∃ v ∈ ((initial {} {} 100).afterAll reopenedRun).views,
      (∃ before later, reopenedRun = before ++ .openView v.source :: later ∧
        let opened := ((initial {} {} 100).afterAll before).after (.openView v.source)
        (opened.observe (carriesOut? v.assembly) later ++ v.queue).filterMap ViewCommand.unit? =
          (((initial {} {} 100).afterAll before).cache.stored? v.source).toList.map
              CompileOutcome.state ++
            opened.observe (stores? v.assembly) later) ∧
      ∃ outcome, v.sync.unit = some outcome.state ∧
        ((initial {} {} 100).afterAll reopenedRun).cache.stored? v.source = some outcome) ∧
    ((initial {} {} 100).afterAll lateRun).after
        (.cache (.finish (exampleTask 0 0) (.failed default))) =
      { (initial {} {} 100).afterAll lateRun with
        cache := ((initial {} {} 100).afterAll lateRun).cache.withoutTask (exampleTask 0 0) } := by
  have hrun : (initial {} {} 100).AllowsAll reopenedRun := by decide +kernel
  have hlate : (initial {} {} 100).AllowsAll lateRun := by decide +kernel
  obtain ⟨htold, herrors, hholds, -⟩ := results_delivered {} {} 100 reopenedRun hrun
  obtain ⟨-, -, -, -, hgone⟩ := results_delivered {} {} 100 lateRun hlate
  have hfails : (initial {} {} 100).observe fails? reopenedRun = ["expected ;"] := by
    decide +kernel
  obtain ⟨v, hv, hqueue⟩ : ∃ v ∈ ((initial {} {} 100).afterAll reopenedRun).views,
      v.queue.isEmpty := by decide +kernel
  obtain ⟨before, later, heq, -, -, hunits⟩ := htold v hv
  obtain ⟨outcome, hstored, hunit⟩ := hholds v hv (List.isEmpty_iff.1 hqueue) (by decide +kernel)
    (by decide +kernel)
  refine ⟨?_, ⟨v, hv, ⟨before, later, heq, hunits⟩, outcome, hunit, hstored⟩, ?_⟩
  · rw [herrors, hfails]
    rfl
  · exact hgone [.openView exampleSource, .firstCompile exampleSource] exampleView
      [.openView exampleSource, .firstCompile exampleSource] rfl (by decide +kernel)
      (exampleTask 0 0) (by decide +kernel) rfl _

end ViewRegistry

end AsmExplorer
