import AsmExplorer.Proofs.Registry.Settle
import AsmExplorer.Simulation

/-!
# Scripts are runs

A simulation does at once all that is left to do at an instant, and moves its clock from one due
action to the next.  The registry can do the same one event after the other: what happens to it
while the clock moves is work that was left to do (`Simulation.Ready.advance`), and a script of
calls and waits takes it where a run takes it (`Simulation.exists_afterAll`).  So what is proved of
every run of the registry, whatever the order of its events, holds at the end of every script.

This needs the compiler to finish only tasks that run, and each of them once.  It does, because it
is given every task by its number, and no task stops running before it has finished
(`Simulation.Fed`).
-/

namespace AsmExplorer

/-- The event is the end of the task of a number. -/
def CacheEvent.Ends (id : Nat) : CacheEvent → Prop
  | .finish task _ => task.id = id
  | _ => False

namespace CompileCache

variable {c c' : CompileCache} {key : Uri} {event : CacheEvent} {ts : List CompileTask}
  {t : CompileTask}

/-! ### Tasks run until they finish -/

theorem Step.mem_running (h : c.Step key event c' ts) (ht : t ∈ c.running)
    (hends : ¬event.Ends t.id) : t ∈ c'.running := by
  have hwithout : ∀ {task state}, event = .finish task state →
      t ∈ (c.withoutTask task).running := by
    rintro task state rfl
    exact List.mem_filter.2 ⟨ht, bne_iff_ne.2 fun hid => hends hid.symm⟩
  cases h with
  | created =>
    rw [running_start]
    exact List.mem_append_left _ ht
  | recompiled | elapsed =>
    rw [running_request]
    exact List.mem_append_left _ ht
  | followed =>
    rw [running_start]
    exact List.mem_append_left _ (hwithout rfl)
  | finished | discarded => exact hwithout rfl
  | _ => exact ht

theorem Accounted.mem_running_afterAll (h : c.Accounted) {events : List CacheEvent}
    (ha : c.AllowsAll events) (ht : t ∈ c.running)
    (hends : ∀ event ∈ events, ¬event.Ends t.id) : t ∈ (c.afterAll events).running := by
  induction events generalizing c with
  | nil => exact ht
  | cons event events ih =>
    obtain ⟨key, hstep⟩ := h.step_after ha.1
    rw [List.forall_mem_cons] at hends
    exact ih (h.after ha.1) ha.2 (hstep.mem_running ht hends.1) hends.2

end CompileCache

namespace ViewRegistry

variable {r : ViewRegistry} {event : RegistryEvent} {t : CompileTask}

theorem eq_finish_of_mem_cacheEvents {task : CompileTask} {state : UnitState}
    (h : .finish task state ∈ r.cacheEvents event) : event = .cache (.finish task state) := by
  cases event <;> simp_all [cacheEvents]

theorem Wired.mem_running_after (h : r.Wired) (ha : r.Allows event) (ht : t ∈ r.cache.running)
    (hends : ∀ state task, event = .cache (.finish task state) → task.id ≠ t.id) :
    t ∈ (r.after event).cache.running := by
  rw [cache_after]
  refine h.accounted.mem_running_afterAll (allowsAll_cacheEvents ha) ht fun e he hend => ?_
  cases e with
  | finish task state => exact hends state task (eq_finish_of_mem_cacheEvents he) hend
  | _ => exact hend

/-- Settling ends no task. -/
theorem Wired.mem_running_settle (h : r.Wired) (ht : t ∈ r.cache.running) :
    t ∈ r.settle.cache.running := by
  have hcache : r.settle.cache = r.cache.afterAll (r.opening.map .get) :=
    (afterAll_map .get r.opening r.cache).symm
  rw [hcache]
  have hallowed : r.cache.AllowsAll (r.opening.map .get) := by
    refine allowsAll_map ?_ _ _
    exact fun _ _ => trivial
  exact h.accounted.mem_running_afterAll hallowed ht (List.forall_mem_map.2 fun _ _ => id)

end ViewRegistry

namespace Simulation

/-! ### The compiler -/

/-- The tasks that the compiler works on. -/
def tasks (s : Simulation) : List CompileTask :=
  s.compiling.map PendingCompile.task

/-- The compiler works on tasks that run, on each of them once, and it was given them in the order of
their numbers. -/
structure Fed (s : Simulation) : Prop where
  /-- The tasks run. -/
  running : ∀ t ∈ s.tasks, t ∈ s.registry.cache.running
  /-- No two of them have the same number. -/
  nodup : (s.tasks.map CompileTask.id).Nodup
  /-- Their numbers are below those of the tasks that are yet to be given to it. -/
  called : ∀ t ∈ s.tasks, t.id < s.called

/-- The registry is that of a run, and its tasks are those of the compiler. -/
structure Ready (s : Simulation) : Prop where
  /-- The registry keeps the invariant of runs. -/
  wired : s.registry.Wired
  /-- The compiler works on tasks of the registry. -/
  fed : s.Fed

/-- What the registry and the compiler of a simulation do depends on. -/
def core (s : Simulation) : ViewRegistry × List CompileTask × Nat :=
  (s.registry, s.tasks, s.called)

/-- A simulation comes to another one by work that was left to do. -/
structure Proceeds (s t : Simulation) : Prop where
  /-- What happens to the registry is work. -/
  works : s.registry.Works t.registry
  /-- The compiler still works on tasks that run. -/
  ready : t.Ready

variable {s t u : Simulation} {p : PendingCompile}

theorem core_eq_iff {r : ViewRegistry} {l : List CompileTask} {n : Nat} :
    s.core = (r, l, n) ↔ s.registry = r ∧ s.tasks = l ∧ s.called = n := by
  rw [core, Prod.mk.injEq, Prod.mk.injEq]

theorem Ready.of_core (h : s.Ready) (hcore : t.core = s.core) : t.Ready := by
  obtain ⟨hregistry, htasks, hcalled⟩ := core_eq_iff.1 hcore
  refine ⟨hregistry ▸ h.wired, fun task htask => ?_, htasks ▸ h.fed.nodup, fun task htask => ?_⟩
  · rw [hregistry]
    exact h.fed.running task (htasks ▸ htask)
  · rw [hcalled]
    exact h.fed.called task (htasks ▸ htask)

theorem Proceeds.refl (h : s.Ready) : s.Proceeds s :=
  ⟨.refl _, h⟩

theorem Proceeds.trans (h : s.Proceeds t) (h' : t.Proceeds u) : s.Proceeds u :=
  ⟨h.works.trans h'.works, h'.ready⟩

theorem Proceeds.of_core (h : s.Proceeds t) (hcore : u.core = t.core) : s.Proceeds u := by
  have hregistry : u.registry = t.registry := (core_eq_iff.1 hcore).1
  exact ⟨hregistry ▸ h.works, h.ready.of_core hcore⟩

/-! ### What is noted -/

@[simp] theorem core_note (h : Happening) : (s.note h).core = s.core := rfl

theorem core_foldl {α : Type} {f : Simulation → α → Simulation}
    (h : ∀ s a, (f s a).core = s.core) (l : List α) (s : Simulation) :
    (l.foldl f s).core = s.core := by
  induction l generalizing s with
  | nil => rfl
  | cons a l ih => rw [List.foldl_cons, ih, h]

theorem core_answer (id : String) (wantsContent : Bool) (a : RequestAnswer) :
    (s.answer id wantsContent a).core = s.core := by
  unfold answer
  split
  · cases a <;> rfl
  · rfl

theorem core_reply (id : String) (wantsContent : Bool) (reply : CacheReply) :
    (s.reply id wantsContent reply).core = s.core := by
  cases reply with
  | pending task => rfl
  | _ => exact core_answer id wantsContent _

theorem core_answerWaiters : (s.answerWaiters p).core = s.core := by
  unfold answerWaiters
  dsimp only
  exact core_foldl (fun _ _ => core_answer _ _ _) _ _

/-- The compiler is given a task. -/
theorem core_call (task : CompileTask) :
    (s.call task).core = (s.registry, s.tasks ++ [task], s.called) := by
  simp only [core, tasks, call, note, List.map_append, List.map_singleton]

theorem core_foldl_call (l : List CompileTask) :
    (l.foldl call s).core = (s.registry, s.tasks ++ l, s.called) := by
  induction l generalizing s with
  | nil => rw [List.append_nil]; rfl
  | cons task l ih =>
    obtain ⟨hregistry, htasks, hcalled⟩ := core_eq_iff.1 (core_call (s := s) task)
    rw [List.foldl_cons, ih, hregistry, htasks, hcalled, List.append_assoc, List.singleton_append]

/-! ### Work at an instant -/

/-- The compiler is given the tasks that were started since it was last given some. -/
theorem Ready.callNew (h : s.Ready) : s.Proceeds s.callNew := by
  obtain ⟨hregistry, htasks, hcalled⟩ := core_eq_iff.1
    (core_foldl_call (s := { s with called := s.registry.cache.nextTask })
      (s.registry.cache.running.filter (s.called ≤ ·.id)))
  have hnumbered := h.wired.accounted.numbered
  have hfed : s.callNew.Fed := by
    constructor
    · intro t ht
      rw [Simulation.callNew, htasks, List.mem_append] at ht
      rw [Simulation.callNew, hregistry]
      exact ht.elim (h.fed.running t) List.mem_of_mem_filter
    · rw [Simulation.callNew, htasks, List.map_append]
      refine h.fed.nodup.append (hnumbered.nodup.sublist (List.filter_sublist.map _)) ?_
      -- the tasks that the compiler has have smaller numbers
      intro id hid hid'
      obtain ⟨t, ht, rfl⟩ := List.mem_map.1 hid
      obtain ⟨t', ht', heq⟩ := List.mem_map.1 hid'
      have hless := h.fed.called t ht
      have hle : s.called ≤ t'.id := by simpa using (List.mem_filter.1 ht').2
      omega
    · intro t ht
      rw [Simulation.callNew, htasks, List.mem_append] at ht
      rw [Simulation.callNew, hcalled]
      exact hnumbered.fresh t (ht.elim (h.fed.running t) List.mem_of_mem_filter)
  have hsame : s.callNew.registry = s.registry := hregistry
  exact ⟨hsame ▸ .refl _, hsame ▸ h.wired, hfed⟩

/-- Other registries will do, if no task stops running. -/
theorem Ready.registry {r : ViewRegistry} (h : s.Ready) (hr : s.registry.Works r)
    (hrunning : ∀ t ∈ s.tasks, t ∈ r.cache.running) :
    s.Proceeds { s with registry := r } :=
  ⟨hr, hr.wired h.wired, hrunning, h.fed.nodup, h.fed.called⟩

theorem Ready.settle (h : s.Ready) : s.Proceeds s.settle := by
  have hsettled := h.registry (ViewRegistry.works_settle s.registry) fun t ht =>
    h.wired.mem_running_settle (h.fed.running t ht)
  exact hsettled.trans hsettled.ready.callNew

theorem core_tell (news : UnitChanged) :
    (s.tell news).core = (s.registry.unitChanged news, s.tasks, s.called) :=
  core_foldl (fun _ _ => core_note _) _ _

theorem core_finish : (s.finish p).core =
    (s.registry.after (.cache (.finish p.task p.state)),
      s.tasks.filter (·.id != p.task.id), s.called) := by
  have htasks : (s.compiling.filter (·.task.id != p.task.id)).map PendingCompile.task =
      s.tasks.filter (·.id != p.task.id) := by
    rw [tasks, List.filter_map]
    rfl
  rw [← htasks]
  simp only [Simulation.finish, ViewRegistry.after, CompileCache.news, CompileCache.after]
  cases (s.registry.cache.finish p.task p.state).2 with
  | none => rfl
  | some news => exact core_tell news

/-- A compilation ends, and the compiler goes on with the others. -/
theorem Ready.finish (h : s.Ready) (hp : p.task ∈ s.tasks) : s.Proceeds (s.finish p) := by
  obtain ⟨hregistry, htasks, hcalled⟩ := core_eq_iff.1 (core_finish (s := s) (p := p))
  have hallowed : s.registry.Allows (.cache (.finish p.task p.state)) := h.fed.running _ hp
  refine ⟨.head hallowed trivial (hregistry ▸ .refl _), hregistry ▸ h.wired.after hallowed, ?_⟩
  constructor
  · intro t ht
    rw [htasks, List.mem_filter, bne_iff_ne] at ht
    rw [hregistry]
    refine h.wired.mem_running_after hallowed (h.fed.running t ht.1) fun state task heq => ?_
    cases heq
    exact ht.2.symm
  · rw [htasks]
    exact h.fed.nodup.sublist (List.filter_sublist.map _)
  · intro t ht
    rw [htasks] at ht
    rw [hcalled]
    exact h.fed.called t (List.mem_of_mem_filter ht)

theorem Ready.finishAll {l : List PendingCompile} (h : s.Ready)
    (htasks : ∀ p ∈ l, p.task ∈ s.tasks) (hnodup : (l.map (·.task.id)).Nodup) :
    s.Proceeds (l.foldl Simulation.finish s) := by
  induction l generalizing s with
  | nil => exact .refl h
  | cons p l ih =>
    have hfirst := h.finish (htasks p List.mem_cons_self)
    rw [List.map_cons, List.nodup_cons] at hnodup
    refine hfirst.trans (ih hfirst.ready (fun q hq => ?_) hnodup.2)
    have hne : q.task.id ≠ p.task.id := fun heq =>
      hnodup.1 (heq ▸ List.mem_map_of_mem hq)
    rw [(core_eq_iff.1 core_finish).2.1]
    exact List.mem_filter.2 ⟨htasks q (List.mem_cons_of_mem _ hq), bne_iff_ne.2 hne⟩

/-! ### Time -/

theorem mem_of_earliest? {actions : List Action} {a : Action} (h : earliest? actions = some a) :
    a ∈ actions := by
  induction actions generalizing a with
  | nil => cases h
  | cons first rest ih =>
    rw [earliest?] at h
    split at h
    · split at h
      · exact List.mem_cons_of_mem _ (ih (by simp_all))
      · exact List.mem_cons.2 (.inl (Option.some.inj h).symm)
    · exact List.mem_cons.2 (.inl (Option.some.inj h).symm)

/-- What is due is done, and all that follows from it at once. -/
theorem Ready.act {a : Action} (h : s.Ready) (ha : s.nextAction? = some a) :
    s.Proceeds (s.act a) := by
  cases a with
  | timer timer =>
    have htimer : timer ∈ s.registry.cache.timers := by
      simpa [nextAction?] using mem_of_earliest? ha
    have hallowed : s.registry.Allows (.cache (.elapse timer)) := htimer
    have helapsed := h.registry (.head hallowed trivial (.refl _)) fun t ht =>
      h.wired.mem_running_after hallowed (h.fed.running t ht) fun _ _ heq => nomatch heq
    exact helapsed.trans helapsed.ready.settle
  | compile p =>
    have hsub : (s.compiling.filter (·.due == p.due)).Sublist s.compiling := List.filter_sublist
    have hfinished := h.finishAll (l := s.compiling.filter (·.due == p.due))
      (fun q hq => List.mem_map_of_mem (hsub.subset hq)) (by
        have hnodup := h.fed.nodup
        rw [tasks, List.map_map] at hnodup
        exact hnodup.sublist (hsub.map _))
    have hanswered := hfinished.of_core (core_foldl (f := answerWaiters)
      (fun _ _ => core_answerWaiters) (s.compiling.filter (·.due == p.due)) _)
    exact hanswered.trans hanswered.ready.settle

/-- What is due until some time is done, however much of it. -/
theorem Ready.runUntil (limit fuel : Nat) (h : s.Ready) :
    s.Proceeds (Simulation.runUntil limit fuel s) := by
  induction fuel generalizing s with
  | zero => exact .refl h
  | succ fuel ih =>
    rw [Simulation.runUntil]
    split
    · exact .refl h
    · rename_i a ha
      split
      · -- the clock is moved first
        have hmoved : s.Proceeds { s with now := max s.now a.due } := (Proceeds.refl h).of_core rfl
        have hacted := hmoved.trans (hmoved.ready.act ha)
        exact hacted.trans (ih hacted.ready)
      · exact .refl h

/-- **While the clock moves, what happens to the registry is work that was left to do.** -/
theorem Ready.advance (h : s.Ready) (milliseconds : Nat) :
    s.Proceeds (s.advance milliseconds) :=
  (h.runUntil _ _).of_core rfl

theorem Ready.rest (h : s.Ready) : s.Proceeds s.rest :=
  h.settle.trans (h.settle.ready.advance 0)

/-! ### Scripts -/

/-- What a script does to a simulation. -/
inductive ScriptStep where
  /-- A view is opened. -/
  | openView (source : Uri)
  /-- The registry is called, or the host changes. -/
  | calls (events : List RegistryEvent)
  /-- The unit of a source is asked for. -/
  | get (source : Uri) (id : String)
  /-- The text of an assembly document is asked for. -/
  | content (assembly : Uri) (id : String)
  /-- The clock moves. -/
  | advance (milliseconds : Nat)
  /-- A listener is registered. -/
  | listen (id : String)
  /-- A listener is released. -/
  | unlisten (id : String)

/-- The simulation after a step of a script. -/
def perform (s : Simulation) : ScriptStep → Simulation
  | .openView source => (s.openView source).1
  | .calls events => s.onRegistry (·.afterAll events)
  | .get source id => s.get source id
  | .content assembly id => s.content assembly id
  | .advance milliseconds => s.advance milliseconds
  | .listen id => s.listen id
  | .unlisten id => s.unlisten id

/-- The work is left to the simulation. -/
def Permits (s : Simulation) : ScriptStep → Prop
  | .calls events => s.registry.AllowsAll events ∧ ∀ event ∈ events, ¬event.IsWork
  | _ => True

/-- The simulation after a script. -/
def performAll (s : Simulation) : List ScriptStep → Simulation
  | [] => s
  | step :: steps => (s.perform step).performAll steps

/-- A script is possible. -/
def PermitsAll (s : Simulation) : List ScriptStep → Prop
  | [] => True
  | step :: steps => s.Permits step ∧ (s.perform step).PermitsAll steps

/-- A simulation comes to another one in a run of the registry. -/
structure Reaches (s t : Simulation) : Prop where
  /-- The registry has made the run. -/
  run : ∃ events, s.registry.AllowsAll events ∧ s.registry.afterAll events = t.registry
  /-- The compiler works on tasks that run. -/
  ready : t.Ready

theorem Reaches.refl (h : s.Ready) : s.Reaches s :=
  ⟨⟨[], trivial, rfl⟩, h⟩

theorem Reaches.trans (h : s.Reaches t) (h' : t.Reaches u) : s.Reaches u := by
  obtain ⟨events, hallowed, hafter⟩ := h.run
  obtain ⟨later, hlater, hlast⟩ := h'.run
  rw [← hafter] at hlater hlast
  exact ⟨⟨events ++ later, ViewRegistry.allowsAll_append.2 ⟨hallowed, hlater⟩,
    (ViewRegistry.afterAll_append events later).trans hlast⟩, h'.ready⟩

theorem Proceeds.reaches (h : s.Proceeds t) : s.Reaches t := by
  obtain ⟨work, -, hallowed, hafter⟩ := h.works
  exact ⟨⟨work, hallowed, hafter⟩, h.ready⟩

/-- A call ends no task, so the compiler goes on with all of them. -/
theorem Ready.call (h : s.Ready) (event : RegistryEvent) (hallowed : s.registry.Allows event)
    (hcall : ¬event.IsWork) : s.Reaches { s with registry := s.registry.after event } := by
  have hrunning : ∀ t ∈ s.tasks, t ∈ (s.registry.after event).cache.running := by
    refine fun t ht => h.wired.mem_running_after hallowed (h.fed.running t ht) ?_
    rintro state task rfl
    exact absurd trivial hcall
  exact ⟨⟨[event], ⟨hallowed, trivial⟩, rfl⟩, h.wired.after hallowed, hrunning, h.fed.nodup,
    h.fed.called⟩

theorem Ready.calls {events : List RegistryEvent} (h : s.Ready)
    (hallowed : s.registry.AllowsAll events) (hcalls : ∀ event ∈ events, ¬event.IsWork) :
    s.Reaches { s with registry := s.registry.afterAll events } := by
  induction events generalizing s with
  | nil => exact .refl h
  | cons event events ih =>
    rw [List.forall_mem_cons] at hcalls
    have hfirst := h.call event hallowed.1 hcalls.1
    exact hfirst.trans (ih hfirst.ready hallowed.2 hcalls.2)

theorem Reaches.of_core (h : s.Reaches t) (hcore : u.core = t.core) : s.Reaches u := by
  have hregistry : u.registry = t.registry := (core_eq_iff.1 hcore).1
  exact ⟨hregistry ▸ h.run, h.ready.of_core hcore⟩

theorem Reaches.rest (h : s.Reaches t) : s.Reaches t.rest :=
  h.trans h.ready.rest.reaches

/-- **A step of a script takes the registry where a run takes it.** -/
theorem Ready.perform {step : ScriptStep} (h : s.Ready) (hstep : s.Permits step) :
    s.Reaches (s.perform step) := by
  cases step with
  | openView source =>
    have hopened := h.call (.openView source) trivial not_false
    simp only [ViewRegistry.after, ViewRegistry.opened] at hopened
    simp only [Simulation.perform, Simulation.openView]
    cases hview : s.registry.openView source with
    | error fault => exact .refl h
    | ok opened =>
      rw [hview] at hopened
      exact hopened.rest
  | calls events => exact (h.calls hstep.1 hstep.2).rest
  | get source id =>
    have hasked := h.call (.cache (.get source)) trivial not_false
    exact (hasked.of_core (core_reply id false _)).rest
  | content assembly id =>
    have hasked := h.call (.content assembly) trivial not_false
    simp only [ViewRegistry.after] at hasked
    simp only [Simulation.perform, Simulation.content]
    cases hcontent : s.registry.content? assembly with
    | none => exact (Reaches.refl h).of_core rfl
    | some asked =>
      rw [hcontent] at hasked
      exact (hasked.of_core (core_reply id true _)).rest
  | advance milliseconds => exact (h.advance milliseconds).reaches
  | listen id => exact (Reaches.refl h).of_core rfl
  | unlisten id =>
    simp only [Simulation.perform, Simulation.unlisten]
    split
    · exact .refl h
    · exact (Reaches.refl h).of_core rfl

theorem Ready.performAll {steps : List ScriptStep} (h : s.Ready) (hsteps : s.PermitsAll steps) :
    s.Reaches (s.performAll steps) := by
  induction steps generalizing s with
  | nil => exact .refl h
  | cons step steps ih =>
    have hfirst := h.perform hsteps.1
    exact hfirst.trans (ih hfirst.ready hsteps.2)

/-- The simulation of a registry in which nothing has happened yet. -/
def initial (settings : SyncSettings) (host : Host) (debounce : Nat)
    (scripts : List (Uri × CompilerScript)) : Simulation :=
  { registry := .initial settings host debounce, scripts }

theorem ready_initial (settings : SyncSettings) (host : Host) (debounce : Nat)
    (scripts : List (Uri × CompilerScript)) :
    (initial settings host debounce scripts).Ready :=
  ⟨ViewRegistry.wired_initial settings host debounce,
    ⟨List.forall_mem_nil _, List.nodup_nil, List.forall_mem_nil _⟩⟩

/-- **Scripts are runs.**  Whatever a script does, the registry it ends with is that of a run from
the registry it started with. -/
theorem exists_afterAll (settings : SyncSettings) (host : Host) (debounce : Nat)
    (scripts : List (Uri × CompilerScript)) (steps : List ScriptStep)
    (hsteps : (initial settings host debounce scripts).PermitsAll steps) :
    ∃ events, (ViewRegistry.initial settings host debounce).AllowsAll events ∧
      (ViewRegistry.initial settings host debounce).afterAll events =
        ((initial settings host debounce scripts).performAll steps).registry :=
  ((ready_initial settings host debounce scripts).performAll hsteps).run

end Simulation

end AsmExplorer
