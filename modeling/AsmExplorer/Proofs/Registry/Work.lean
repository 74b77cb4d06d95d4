import AsmExplorer.Proofs.Registry.Run

/-!
# Work comes to an end

Work goes on by itself, and some of it makes more: a timer starts a compilation, a compilation that
finishes starts the one that was queued behind it and tells a view, and the view has a command to
carry out.  Still there is only so much of it.  `ViewRegistry.workLeft` weighs what is left:

* 3 for a timer or a first compilation that is due, for either starts at most one task;
* 2 for a running task, and 2 for a task that is queued, for the end of a task gives a view at most
  one command;
* 1 for a command, and 1 for a closed view that has not ended.

Every piece of work makes the weight smaller (`Wired.workLeft_after`), so work that is left to
itself ends (`Wired.length_le_workLeft`).  When none can be done the registry is `Quiet`: there is
no timer, no task and no first compilation left, and nothing more happens to the cache by itself
(`Quiet.cacheRun_eq_nil`).
-/

namespace AsmExplorer

namespace CompileCache

/-! ### The cache -/

/-- The number of tasks that are queued behind others. -/
def reruns (c : CompileCache) : Nat :=
  c.entries.countP fun p => p.2.rerun

/-- The weight of the work that is left in the cache. -/
def workLeft (c : CompileCache) : Nat :=
  3 * c.timers.length + 2 * c.running.length + 2 * c.reruns

variable {c c' : CompileCache} {key : Uri} {e : CacheEntry} {event : CacheEvent}
  {ts : List CompileTask}

/-- The number of tasks that are queued for a view, which is 0 or 1. -/
def queued (c : CompileCache) (key : Uri) : Nat :=
  ((c.entry? key).map fun e => e.rerun.toNat).getD 0

theorem queued_eq (he : c.entry? key = some e) : c.queued key = e.rerun.toNat := by
  rw [queued, he]
  rfl

/-- Putting an entry in its place changes the count by that entry alone. -/
theorem countP_putIn (key : Uri) (e : CacheEntry) (l : List (Uri × CacheEntry)) :
    (putIn key e l).countP (fun p => p.2.rerun) +
        ((l.lookup key).map fun e => e.rerun.toNat).getD 0 =
      l.countP (fun p => p.2.rerun) + e.rerun.toNat := by
  have hone : ∀ (p : Uri × CacheEntry) (l : List (Uri × CacheEntry)),
      (p :: l).countP (fun p => p.2.rerun) = l.countP (fun p => p.2.rerun) + p.2.rerun.toNat := by
    intro p l
    rw [List.countP_cons]
    cases p.2.rerun <;> rfl
  induction l with
  | nil => rw [putIn, hone]; rfl
  | cons p l ih =>
    obtain ⟨k, old⟩ := p
    by_cases hk : k = key
    · subst hk
      simp only [putIn, ↓reduceIte, hone, lookup_cons_eq_ite, Option.map_some, Option.getD_some]
      omega
    · simp only [putIn, hk, ↓reduceIte, hone, lookup_cons_eq_ite, Ne.symm hk]
      omega

theorem reruns_put (c : CompileCache) (key : Uri) (e : CacheEntry) :
    (c.put key e).reruns + c.queued key = c.reruns + e.rerun.toNat :=
  countP_putIn key e c.entries

/-- Starting a task makes work for that task, and takes away that for a queued one. -/
theorem workLeft_start (c : CompileCache) (key : Uri) (e : CacheEntry) :
    (c.start key e).workLeft + 2 * c.queued key = c.workLeft + 2 := by
  have hreruns : (c.start key e).reruns + c.queued key = c.reruns + 0 :=
    countP_putIn key _ c.entries
  simp only [workLeft, timers_start, running_start, List.length_append, List.length_singleton]
  omega

/-- A request makes work for one task at most. -/
theorem workLeft_request (c : CompileCache) (key : Uri) (e : CacheEntry) :
    (c.request key e).workLeft ≤ c.workLeft + 2 := by
  unfold request
  split
  · have hreruns : (c.put key { e with rerun := true }).reruns + c.queued key = c.reruns + 1 :=
      reruns_put c key _
    simp only [workLeft, timers_put, running_put]
    omega
  · have hstart := workLeft_start c key e
    omega

theorem workLeft_withoutTimer {timer : DebounceTimer} (ht : timer ∈ c.timers) :
    (c.withoutTimer timer).workLeft + 3 = c.workLeft := by
  have hlength := List.length_erase_of_mem ht
  have hpos := List.length_pos_of_mem ht
  simp only [workLeft, withoutTimer, reruns]
  omega

theorem workLeft_withoutTask {task : CompileTask} (ht : task ∈ c.running) :
    (c.withoutTask task).workLeft + 2 ≤ c.workLeft := by
  have hlength : (c.running.filter (·.id != task.id)).length < c.running.length :=
    List.length_filter_lt_length_iff_exists.2 ⟨task, ht, by simp⟩
  simp only [workLeft, withoutTask, reruns]
  omega

theorem Step.workLeft_elapse {timer : DebounceTimer} (h : c.Step key (.elapse timer) c' ts) :
    c'.workLeft + 1 ≤ c.workLeft := by
  cases h with
  | refused hs => cases hs
  | created hev => obtain h | h := hev <;> cases h
  | @elapsed _ e ht =>
    have hrequest := workLeft_request (c.withoutTimer timer) key { e with debouncing := false }
    have hless := workLeft_withoutTimer ht
    omega
  | expired ht =>
    have hless := workLeft_withoutTimer ht
    omega

theorem Step.workLeft_finish {task : CompileTask} {state : UnitState}
    (h : c.Step key (.finish task state) c' ts) : c'.workLeft + 2 ≤ c.workLeft := by
  cases h with
  | refused hs => cases hs
  | created hev => obtain h | h := hev <;> cases h
  | @finished _ _ e ht hk he hep hrerun =>
    have hqueued : (c.withoutTask task).queued key = e.rerun.toNat := queued_eq he
    have hreruns : ((c.withoutTask task).put key _).reruns + (c.withoutTask task).queued key =
        (c.withoutTask task).reruns + e.rerun.toNat :=
      reruns_put _ key { e with outcome := some { task := task.id, state }, inFlight := none }
    have hless := workLeft_withoutTask ht
    simp only [workLeft, timers_put, running_put] at hless ⊢
    omega
  | @followed _ _ e ht hk he hep hrerun =>
    have hqueued : (c.withoutTask task).queued key = e.rerun.toNat := queued_eq he
    have hone : e.rerun.toNat = 1 := hrerun ▸ rfl
    have hstart := workLeft_start (c.withoutTask task) key
      { e with outcome := some { task := task.id, state }, inFlight := none }
    have hless := workLeft_withoutTask ht
    omega
  | discarded ht => exact workLeft_withoutTask ht

/-- Asking for a unit makes work for one task at most. -/
theorem Step.workLeft_get {source : Uri} (h : c.Step key (.get source) c' ts) :
    c'.workLeft ≤ c.workLeft + 2 := by
  cases h with
  | created =>
    have hstart := workLeft_start c.takeEpoch key
    exact Nat.le_trans (Nat.le_add_right _ _) (Nat.le_of_eq (hstart _))
  | _ => exact Nat.le_add_right _ _

end CompileCache

namespace ViewRegistry

/-! ### The views -/

/-- The number of commands that wait in the queues of views. -/
def commands : List OpenView → Nat
  | [] => 0
  | v :: views => v.queue.length + commands views

/-- The weight of the work that is left. -/
def workLeft (r : ViewRegistry) : Nat :=
  r.cache.workLeft + 3 * r.opening.length + commands r.views + commands r.closing +
    r.closing.length

variable {r : ViewRegistry} {event : RegistryEvent}

/-- Putting a view in the place of another one changes the number by those two alone. -/
theorem commands_set {views : List OpenView} {index : Nat} {v : OpenView} (w : OpenView)
    (hv : views[index]? = some v) :
    commands (views.set index w) + v.queue.length = commands views + w.queue.length := by
  induction views generalizing index with
  | nil => simp at hv
  | cons x views ih =>
    cases index with
    | zero =>
      obtain rfl : x = v := by simpa using hv
      simp only [List.set_cons_zero, commands]
      omega
    | succ index =>
      have hset := ih (by simpa using hv)
      simp only [List.set_cons_succ, commands]
      omega

theorem commands_eraseIdx {views : List OpenView} {index : Nat} {v : OpenView}
    (hv : views[index]? = some v) :
    commands (views.eraseIdx index) + v.queue.length = commands views := by
  induction views generalizing index with
  | nil => simp at hv
  | cons x views ih =>
    cases index with
    | zero =>
      obtain rfl : x = v := by simpa using hv
      simp only [List.eraseIdx_zero, List.tail_cons, commands]
      omega
    | succ index =>
      have herase := ih (by simpa using hv)
      simp only [List.eraseIdx_cons_succ, commands]
      omega

theorem length_queue_work {v : OpenView} (host : Host) (hne : v.queue ≠ []) :
    (v.work host).1.queue.length + 1 = v.queue.length := by
  unfold OpenView.work
  split
  · rename_i hnil
    exact absurd hnil hne
  · rename_i heq
    rw [heq, List.length_cons]

/-- What is told to the view of a document is one command more, for no two views have the same
document. -/
theorem commands_sendTo (hnodup : (r.documents.map ViewDocuments.assembly).Nodup) (assembly : Uri)
    (command : ViewCommand) :
    commands (r.sendTo assembly command).views ≤ commands r.views + 1 := by
  have hcount : ∀ views : List OpenView,
      commands (views.map fun v => if v.assembly = assembly then v.send command else v) =
        commands views + (views.map OpenView.assembly).count assembly := by
    intro views
    induction views with
    | nil => rfl
    | cons v views ih =>
      rw [List.map_cons, commands, commands, ih, List.map_cons, List.count_cons]
      by_cases hv : v.assembly = assembly
      · simp only [hv, ↓reduceIte, OpenView.send, List.length_append, List.length_singleton,
          beq_self_eq_true]
        omega
      · simp only [hv, ↓reduceIte, beq_iff_eq]
        omega
  have hone : (r.views.map OpenView.assembly).count assembly ≤ 1 := by
    rw [documents, List.map_map] at hnodup
    exact List.nodup_iff_count_le_one.1 hnodup assembly
  simp only [sendTo, hcount]
  omega

theorem workLeft_told (hnodup : (r.documents.map ViewDocuments.assembly).Nodup)
    (news : Option UnitChanged) : (r.told news).workLeft ≤ r.workLeft + 1 := by
  cases news with
  | none => exact Nat.le_succ _
  | some news =>
    unfold told unitChanged
    dsimp only
    split
    · have hsent := commands_sendTo hnodup news.assembly (.unit news.outcome.state)
      simp only [workLeft, sendTo] at hsent ⊢
      omega
    · exact Nat.le_succ _

/-! ### Every piece of work -/

/-- **Every piece of work leaves less of it.** -/
theorem Wired.workLeft_after (h : r.Wired) (ha : r.Allows event) (hw : event.IsWork) :
    (r.after event).workLeft + 1 ≤ r.workLeft := by
  cases event with
  | cache event =>
    cases event with
    | elapse timer =>
      obtain ⟨_, hstep⟩ := h.accounted.step_after (show r.cache.Allows (.elapse timer) from ha)
      have hless := hstep.workLeft_elapse
      simp only [ViewRegistry.after, CompileCache.news, told, workLeft]
      omega
    | finish task state =>
      obtain ⟨_, hstep⟩ := h.accounted.step_after (show r.cache.Allows (.finish task state) from ha)
      have hless := hstep.workLeft_finish
      have htold := workLeft_told (r := { r with cache := r.cache.after (.finish task state) })
        h.nodup (r.cache.news (.finish task state))
      simp only [ViewRegistry.after, workLeft] at htold ⊢
      omega
    | _ => exact hw.elim
  | firstCompile source =>
    obtain ⟨_, hstep⟩ := h.accounted.step_after (show r.cache.Allows (.get source) from trivial)
    have hmore : (r.cache.getOrCompile source).1.workLeft ≤ r.cache.workLeft + 2 :=
      hstep.workLeft_get
    have hlength := List.length_erase_of_mem (show source ∈ r.opening from ha)
    have hpos := List.length_pos_of_mem (show source ∈ r.opening from ha)
    simp only [ViewRegistry.after, workLeft]
    omega
  | work index =>
    obtain ⟨v, hv, hne⟩ := ha
    rw [Option.mem_def] at hv
    have hset := commands_set (v.work r.host).1 hv
    have hless := length_queue_work r.host hne
    simp only [ViewRegistry.after, worked, hv, workLeft]
    omega
  | workClosing index =>
    have hlt : index < r.closing.length := ha
    have hv := List.getElem?_eq_getElem hlt
    simp only [ViewRegistry.after, workedClosing, hv]
    split
    · have herase := commands_eraseIdx hv
      have hlength := List.length_eraseIdx_of_lt hlt
      simp only [workLeft]
      omega
    · rename_i hne
      have hset := commands_set (r.closing[index].work r.host).1 hv
      have hless := length_queue_work r.host hne
      simp only [workLeft, List.length_set]
      omega
  | _ => exact hw.elim

/-- **Work that is left to itself comes to an end.** -/
theorem Wired.length_le_workLeft {work : List RegistryEvent} (h : r.Wired) (ha : r.AllowsAll work)
    (hw : ∀ event ∈ work, event.IsWork) : work.length ≤ r.workLeft := by
  induction work generalizing r with
  | nil => exact Nat.zero_le _
  | cons event work ih =>
    have hless := h.workLeft_after ha.1 (hw event List.mem_cons_self)
    have hrest := ih (h.after ha.1) ha.2 fun event he => hw event (List.mem_cons_of_mem _ he)
    rw [List.length_cons]
    omega

/-! ### When nothing is left -/

/-- No timer is set, no task runs, and no first compilation is due. -/
def Quiet (r : ViewRegistry) : Prop :=
  r.cache.timers = [] ∧ r.cache.running = [] ∧ r.opening = []

instance (r : ViewRegistry) : Decidable r.Quiet :=
  inferInstanceAs (Decidable (_ ∧ _ ∧ _))

theorem quiet_of_stuck (h : ∀ event, event.IsWork → ¬r.Allows event) : r.Quiet := by
  refine ⟨?_, ?_, ?_⟩ <;> refine List.eq_nil_iff_forall_not_mem.2 fun a ha => ?_
  · exact h (.cache (.elapse a)) trivial ha
  · exact h (.cache (.finish a (.failed default))) trivial ha
  · exact h (.firstCompile a) trivial ha

/-- In a quiet registry only commands are left, and they do nothing to the cache. -/
theorem Quiet.after (h : r.Quiet) (ha : r.Allows event) (hw : event.IsWork) :
    r.cacheEvents event = [] ∧ (r.after event).Quiet := by
  obtain ⟨htimers, hrunning, hopening⟩ := h
  cases event with
  | cache event =>
    cases event with
    | elapse timer =>
      have hmem : timer ∈ r.cache.timers := ha
      simp [htimers] at hmem
    | finish task state =>
      have hmem : task ∈ r.cache.running := ha
      simp [hrunning] at hmem
    | _ => exact hw.elim
  | firstCompile source =>
    have hmem : source ∈ r.opening := ha
    simp [hopening] at hmem
  | work index =>
    refine ⟨rfl, ?_⟩
    rw [Quiet, cache_after, opening_after]
    exact ⟨htimers, hrunning, hopening⟩
  | workClosing index =>
    refine ⟨rfl, ?_⟩
    rw [Quiet, cache_after, opening_after]
    exact ⟨htimers, hrunning, hopening⟩
  | _ => exact hw.elim

theorem Quiet.cacheRun_eq_nil {work : List RegistryEvent} (h : r.Quiet) (ha : r.AllowsAll work)
    (hw : ∀ event ∈ work, event.IsWork) : r.cacheRun work = [] := by
  induction work generalizing r with
  | nil => rfl
  | cons event work ih =>
    obtain ⟨hnil, hquiet⟩ := h.after ha.1 (hw event List.mem_cons_self)
    rw [cacheRun, hnil, List.nil_append]
    exact ih hquiet ha.2 fun event he => hw event (List.mem_cons_of_mem _ he)

end ViewRegistry

end AsmExplorer
