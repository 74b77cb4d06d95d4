import AsmExplorer.Proofs.Cache.Accounting

/-!
# What is stored for a view

The outcome stored for a view is that of the task that finished last, unless its entry was gone
(`Step.state?_eq`).  The listeners are told of exactly these tasks (`snd_finish`).
-/

namespace AsmExplorer

namespace CompileCache

/-- What was stored for a view. -/
def state? (c : CompileCache) (key : Uri) : Option UnitState :=
  ((c.entry? key).bind CacheEntry.outcome).map CompileOutcome.state

/-- What an event stores for a view: what the task that finishes produced, unless its entry is
gone. -/
def stores? (c : CompileCache) (key : Uri) : CacheEvent → Option UnitState
  | .finish task state =>
    if task.key = key ∧ ∃ e ∈ c.entry? key, e.epoch = task.epoch then some state else none
  | _ => none

variable {c c' : CompileCache} {key key' : Uri} {e : CacheEntry} {event : CacheEvent}
  {ts : List CompileTask} {task : CompileTask} {state : UnitState}

theorem state?_eq_of_entry (he : c.entry? key = some e) :
    c.state? key = e.outcome.map CompileOutcome.state := by
  rw [state?, he]
  rfl

theorem state?_eq_none (he : c.entry? key = none) : c.state? key = none := by
  rw [state?, he]
  rfl

theorem state?_congr (h : c'.entry? key = c.entry? key) : c'.state? key = c.state? key := by
  rw [state?, state?, h]

theorem map_stored? {source : Uri} (hk : assemblyUri source = .ok key) :
    (c.stored? source).map CompileOutcome.state = c.state? key := by
  rw [stored?, find?, hk]
  rfl

theorem stores?_finish (hk : task.key = key) (he : c.entry? key = some e)
    (hep : e.epoch = task.epoch) : c.stores? key (.finish task state) = some state :=
  if_pos ⟨hk, e, he, hep⟩

theorem stores?_discarded (hgone : ∀ e, c.entry? key = some e → e.epoch ≠ task.epoch) :
    c.stores? key (.finish task state) = none := by
  refine if_neg ?_
  rintro ⟨-, e, he, hep⟩
  exact hgone e he hep

theorem stores?_other (hk : task.key ≠ key) : c.stores? key (.finish task state) = none :=
  if_neg fun h => hk h.1

/-- A step stores for its view what `stores?` says. -/
theorem Step.state?_self (h : c.Step key event c' ts)
    (hkept : ∀ source, event = .dispose source → assemblyUri source ≠ .ok key) :
    c'.state? key = (c.stores? key event).or (c.state? key) := by
  cases h with
  | refused hs => cases event <;> first | rfl | cases hs
  | answered | untracked | expired => rfl
  | created hev hk hnone =>
    -- the entry is new, and nothing was stored for the view
    rw [state?_eq_none hnone, state?_eq_of_entry (entry?_start.trans (if_pos rfl))]
    obtain rfl | rfl := hev <;> rfl
  | recompiled _ he | elapsed _ _ he =>
    rw [state?_eq_of_entry he, state?_eq_of_entry (entry?_request.trans (if_pos rfl))]
    dsimp only
    split <;> rfl
  | invalidated _ he =>
    rw [state?_eq_of_entry he, state?_eq_of_entry (entry?_put.trans (if_pos rfl))]
    rfl
  | disposed hk => exact absurd hk (hkept _ rfl)
  | finished _ hk he hep =>
    rw [stores?_finish hk he hep, state?_eq_of_entry (entry?_put.trans (if_pos rfl))]
    rfl
  | followed _ hk he hep =>
    rw [stores?_finish hk he hep, state?_eq_of_entry (entry?_start.trans (if_pos rfl))]
    rfl
  | discarded _ _ hgone =>
    rw [stores?_discarded hgone]
    rfl

/-- A step stores nothing for another view. -/
theorem Step.stores?_ne (h : c.Step key event c' ts) (hne : key' ≠ key) :
    c.stores? key' event = none := by
  cases h with
  | refused hs => cases event <;> first | rfl | cases hs
  | created hev => obtain rfl | rfl := hev <;> rfl
  | finished _ hk | followed _ hk | discarded _ hk => exact stores?_other (hk ▸ hne.symm)
  | _ => rfl

/-- **The state stored for a view is that of the task that finished last.** -/
theorem Step.state?_eq (h : c.Step key event c' ts) (hn : c.Numbered)
    (hkept : ∀ source, event = .dispose source → assemblyUri source ≠ .ok key') :
    c'.state? key' = (c.stores? key' event).or (c.state? key') := by
  by_cases hk : key' = key
  · subst hk
    exact h.state?_self hkept
  · rw [h.stores?_ne hk, state?_congr (h.others hn hk).entry]
    rfl

/-- A run in which no task finishes and the source of a view is not forgotten leaves the state
stored for it as it is. -/
theorem Accounted.state?_afterAll {events : List CacheEvent} (h : c.Accounted)
    (ha : c.AllowsAll events) (hfinish : ∀ task state, .finish task state ∉ events)
    (hkept : ∀ source, .dispose source ∈ events → assemblyUri source ≠ .ok key) :
    (c.afterAll events).state? key = c.state? key := by
  induction events generalizing c with
  | nil => rfl
  | cons event events ih =>
    obtain ⟨_, hstep⟩ := h.step_after ha.1
    have hrest := ih (h.after ha.1) ha.2
      (fun task state hmem => hfinish task state (List.mem_cons_of_mem _ hmem))
      (fun source hmem => hkept source (List.mem_cons_of_mem _ hmem))
    have hfirst : (c.after event).state? key = (c.stores? key event).or (c.state? key) :=
      hstep.state?_eq h.numbered fun source heq => hkept source (heq ▸ List.mem_cons_self)
    have hnone : c.stores? key event = none := by
      cases event with
      | finish task state => exact absurd List.mem_cons_self (hfinish task state)
      | _ => rfl
    rw [hnone] at hfirst
    exact hrest.trans hfirst

/-- **The listeners are told of a task that finishes exactly if its outcome is stored.** -/
theorem snd_finish : (c.finish task state).2 = (c.stores? task.key (.finish task state)).map
    fun state => { source := task.source, assembly := task.key
                   outcome := { task := task.id, state } } := by
  simp only [finish]
  split
  · rename_i he
    have hnone : ∀ e, c.entry? task.key = some e → e.epoch ≠ task.epoch := fun e he' => by
      simp [show c.entry? task.key = none from he] at he'
    rw [stores?_discarded hnone]
    rfl
  · rename_i e he
    replace he : c.entry? task.key = some e := he
    split
    · rename_i hep
      rw [stores?_finish rfl he hep]
      rfl
    · rename_i hep
      have hgone : ∀ e', c.entry? task.key = some e' → e'.epoch ≠ task.epoch := by
        intro e' he'
        obtain rfl : e = e' := Option.some.inj (he.symm.trans he')
        exact hep
      rw [stores?_discarded hgone]
      rfl

end CompileCache

end AsmExplorer
