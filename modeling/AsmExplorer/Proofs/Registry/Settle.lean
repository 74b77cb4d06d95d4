import AsmExplorer.Proofs.Registry.Work

/-!
# Settling is work

`ViewRegistry.settle` does in one go what is left to do at an instant: the closed views carry out
their commands and end, then the open ones carry out theirs, then the first compilations are asked
for.  It is one of the orders in which this work can be done piece by piece (`works_settle`).
Simulations settle their registry after every call, and this is what makes their scripts runs.
-/

namespace AsmExplorer

namespace ViewRegistry

/-- One registry comes from another by work that was left to do. -/
def Works (r r' : ViewRegistry) : Prop :=
  ∃ work : List RegistryEvent, (∀ event ∈ work, event.IsWork) ∧ r.AllowsAll work ∧
    r.afterAll work = r'

variable {r r' r'' : ViewRegistry} {event : RegistryEvent}

theorem Works.refl (r : ViewRegistry) : r.Works r :=
  ⟨[], by simp, trivial, rfl⟩

theorem Works.head (ha : r.Allows event) (hw : event.IsWork) (h : (r.after event).Works r') :
    r.Works r' := by
  obtain ⟨work, hwork, hallowed, rfl⟩ := h
  exact ⟨event :: work, List.forall_mem_cons.2 ⟨hw, hwork⟩, ⟨ha, hallowed⟩, rfl⟩

theorem Works.trans (h : r.Works r') (h' : r'.Works r'') : r.Works r'' := by
  obtain ⟨work, hwork, hallowed, rfl⟩ := h
  obtain ⟨work', hwork', hallowed', rfl⟩ := h'
  refine ⟨work ++ work', fun event he => ?_, allowsAll_append.2 ⟨hallowed, hallowed'⟩,
    afterAll_append work work'⟩
  exact (List.mem_append.1 he).elim (hwork event) (hwork' event)

/-! ### The views -/

/-- The views that are done, and the host, when one more view has carried out all its commands. -/
def workNext (p : List OpenView × Host) (v : OpenView) : List OpenView × Host :=
  (p.1 ++ [(v.workAll p.2).1], (v.workAll p.2).2)

theorem workAll_eq_foldl (views : List OpenView) (host : Host) :
    workAll views host = views.foldl workNext ([], host) := rfl

theorem foldl_workNext (views done : List OpenView) (host : Host) :
    views.foldl workNext (done, host) =
      (done ++ (workAll views host).1, (workAll views host).2) := by
  induction views generalizing done host with
  | nil => simp [workAll]
  | cons v views ih =>
    rw [workAll_eq_foldl, List.foldl_cons, List.foldl_cons, workNext, workNext, ih, ih]
    simp

theorem workAll_cons (v : OpenView) (views : List OpenView) (host : Host) :
    workAll (v :: views) host =
      ((v.workAll host).1 :: (workAll views (v.workAll host).2).1,
        (workAll views (v.workAll host).2).2) :=
  foldl_workNext views [(v.workAll host).1] (v.workAll host).2

/-- Carrying out one command after the other carries out all. -/
theorem workAll_work {v : OpenView} {host : Host} (hne : v.queue ≠ []) :
    (v.work host).1.workAll (v.work host).2 = v.workAll host := by
  obtain ⟨sync, queue⟩ := v
  cases queue with
  | nil => exact absurd rfl hne
  | cons command queue => rfl

theorem workAll_of_nil {v : OpenView} (host : Host) (hnil : v.queue = []) :
    v.workAll host = (v, host) := by
  obtain ⟨sync, queue⟩ := v
  obtain rfl : queue = [] := hnil
  rfl

theorem works_view {v : OpenView} {done rest : List OpenView}
    (hviews : r.views = done ++ v :: rest) : r.Works { r with
      host := (v.workAll r.host).2
      views := done ++ (v.workAll r.host).1 :: rest } := by
  -- by induction on the number of commands that are left
  obtain ⟨n, hn⟩ : ∃ n, v.queue.length = n := ⟨_, rfl⟩
  induction n generalizing r v with
  | zero =>
    rw [workAll_of_nil r.host (List.length_eq_zero_iff.1 hn), ← hviews]
    exact .refl r
  | succ n ih =>
    have hne : v.queue ≠ [] := fun h => by simp [h] at hn
    have hget : r.views[done.length]? = some v := by simp [hviews]
    have hless := length_queue_work r.host hne
    have hafter : r.after (.work done.length) = { r with
        host := (v.work r.host).2
        views := done ++ (v.work r.host).1 :: rest } := by
      simp only [after, worked, hget]
      rw [hviews, List.set_append_right _ _ (Nat.le_refl _), Nat.sub_self, List.set_cons_zero]
    have hallowed : r.Allows (.work done.length) := ⟨v, hget, hne⟩
    refine .head hallowed trivial ?_
    rw [hafter]
    have hrest := ih (r := { r with
      host := (v.work r.host).2
      views := done ++ (v.work r.host).1 :: rest }) rfl (by omega)
    rwa [workAll_work hne] at hrest

/-- All open views can carry out their commands, one view after the other. -/
theorem works_views {done rest : List OpenView} (hviews : r.views = done ++ rest) :
    r.Works { r with
      host := (workAll rest r.host).2
      views := done ++ (workAll rest r.host).1 } := by
  induction rest generalizing r done with
  | nil =>
    have hsame : done ++ (workAll [] r.host).1 = r.views := hviews.symm
    rw [hsame]
    exact .refl r
  | cons v rest ih =>
    refine (works_view hviews).trans ?_
    have hsplit : done ++ (v.workAll r.host).1 :: rest =
        done ++ [(v.workAll r.host).1] ++ rest := by simp
    have hrest := ih (r := { r with
      host := (v.workAll r.host).2
      views := done ++ (v.workAll r.host).1 :: rest }) hsplit
    rw [workAll_cons]
    simpa using hrest

theorem works_closed {v : OpenView} {rest : List OpenView} (hclosing : r.closing = v :: rest) :
    r.Works { r with host := (v.workAll r.host).2, closing := rest } := by
  obtain ⟨n, hn⟩ : ∃ n, v.queue.length = n := ⟨_, rfl⟩
  have hallowed : r.Allows (.workClosing 0) := by
    rw [Allows, hclosing]
    exact Nat.succ_pos _
  refine .head hallowed trivial ?_
  induction n generalizing r v with
  | zero =>
    have hnil := List.length_eq_zero_iff.1 hn
    have hafter : r.after (.workClosing 0) = { r with closing := rest } := by
      simp [after, workedClosing, hclosing, hnil]
    rw [hafter, workAll_of_nil r.host hnil]
    exact .refl _
  | succ n ih =>
    have hne : v.queue ≠ [] := fun h => by simp [h] at hn
    have hless := length_queue_work r.host hne
    have hafter : r.after (.workClosing 0) = { r with
        host := (v.work r.host).2
        closing := (v.work r.host).1 :: rest } := by
      simp [after, workedClosing, hclosing, hne]
    have hallowed' : { r with
        host := (v.work r.host).2
        closing := (v.work r.host).1 :: rest }.Allows (.workClosing 0) := Nat.succ_pos _
    rw [hafter]
    refine .head hallowed' trivial ?_
    have hrest := ih (r := { r with
      host := (v.work r.host).2
      closing := (v.work r.host).1 :: rest }) rfl (by omega) hallowed'
    rwa [workAll_work hne] at hrest

theorem works_closing : r.Works { r with
    host := (workAll r.closing r.host).2
    closing := [] } := by
  obtain ⟨closing, hclosing⟩ : ∃ closing, r.closing = closing := ⟨_, rfl⟩
  rw [hclosing]
  induction closing generalizing r with
  | nil =>
    cases r
    cases hclosing
    exact .refl _
  | cons v rest ih =>
    refine (works_closed hclosing).trans ?_
    rw [workAll_cons]
    exact ih (r := { r with host := (v.workAll r.host).2, closing := rest }) rfl

/-! ### The cache -/

/-- The first compilations can be asked for in the order in which they became due. -/
theorem works_startOpening : r.Works r.startOpening := by
  obtain ⟨opening, hopening⟩ : ∃ opening, r.opening = opening := ⟨_, rfl⟩
  induction opening generalizing r with
  | nil =>
    cases r
    cases hopening
    exact .refl _
  | cons source opening ih =>
    have hallowed : r.Allows (.firstCompile source) := by
      rw [Allows, hopening]
      exact List.mem_cons_self
    refine .head hallowed trivial ?_
    have hafter : (r.after (.firstCompile source)).opening = opening := by
      simp [after, hopening]
    have hsame : (r.after (.firstCompile source)).startOpening = r.startOpening := by
      simp [startOpening, after, hopening]
    exact hsame ▸ ih hafter

/-- **Settling is work.** -/
theorem works_settle (r : ViewRegistry) : r.Works r.settle := by
  have hclosing := works_closing (r := r)
  have hviews := works_views (r := { r with
    host := (workAll r.closing r.host).2
    closing := [] }) (List.nil_append r.views).symm
  exact (hclosing.trans hviews).trans works_startOpening

theorem Works.wired (h : r.Works r') (hw : r.Wired) : r'.Wired := by
  obtain ⟨work, -, hallowed, rfl⟩ := h
  exact hw.afterAll hallowed

end ViewRegistry

end AsmExplorer
