import AsmExplorer.Proofs.Cache.Phases
import AsmExplorer.Proofs.Uri.Document

/-!
# Entries are isolated

A task or a timer goes on when the entry that it was made for is forgotten, and the source may have
become tracked again by the time it comes to its end.  The new entry has an epoch of its own: epochs
are given out in increasing order, so an epoch that was given out and that no entry of a view has is
had by none of its entries ever again (`Gone`).  What is left over from such an epoch comes to its
end without a trace.

Entries of different sources are kept apart by the view that they are stored under.  Sources may
share the path of their views; the views still differ, since the query holds the source
(`chars_eq_of_assemblyUri_eq`).  A task has both a view and a source, and these belong together
(`Sourced`).

`entries_isolated` puts the two together.
-/

namespace AsmExplorer

/-- The source that an event concerns: that of a call or of a task, or one whose view the timer is
for. -/
def CacheEvent.Concerns (source : Uri) : CacheEvent → Prop
  | .get s | .invalidate s _ | .recompile s | .dispose s => s = source
  | .elapse timer => assemblyUri source = .ok timer.key
  | .finish task _ => task.source = source

namespace CompileCache

/-- The epoch of an entry that was forgotten: it was given out, and the view has no entry of it. -/
def Gone (c : CompileCache) (key : Uri) (epoch : Nat) : Prop :=
  epoch < c.nextEpoch ∧ ∀ e, c.entry? key = some e → e.epoch ≠ epoch

/-- The view of every entry and of every task is that of its source. -/
structure Sourced (c : CompileCache) : Prop where
  /-- Entries are stored under the view of their source. -/
  entries : ∀ key e, c.entry? key = some e → assemblyUri e.source = .ok key
  /-- Tasks are for the view of their source. -/
  tasks : ∀ t ∈ c.running, assemblyUri t.source = .ok t.key

variable {c c' : CompileCache} {key : Uri} {e e' : CacheEntry} {event : CacheEvent}
  {ts : List CompileTask} {epoch : Nat}

/-! ### Where entries come from -/

/-- An entry has the epoch and the source of the one before, or it is new, with the next epoch and a
source of the view. -/
theorem Step.entry_origin (h : c.Step key event c' ts) (hn : c.Numbered) {key' : Uri}
    (he' : c'.entry? key' = some e') :
    (∃ e, c.entry? key' = some e ∧ e.epoch = e'.epoch ∧ e.source = e'.source) ∨
      e'.epoch = c.nextEpoch ∧ assemblyUri e'.source = .ok key' := by
  by_cases hk : key' = key
  · subst hk
    cases h with
    | refused | answered | untracked | expired | discarded => exact .inl ⟨e', he', rfl, rfl⟩
    | created _ hkey =>
      simp only [entry?_start, ↓reduceIte, Option.some.injEq] at he'
      subst he'
      exact .inr ⟨rfl, hkey⟩
    | recompiled _ he | elapsed _ _ he =>
      simp only [entry?_request, ↓reduceIte, Option.some.injEq] at he'
      subst he'
      exact .inl ⟨_, he, by split <;> exact ⟨rfl, rfl⟩⟩
    | invalidated _ he | finished _ _ he =>
      simp only [entry?_put, ↓reduceIte, Option.some.injEq] at he'
      subst he'
      exact .inl ⟨_, he, rfl, rfl⟩
    | followed _ _ he =>
      simp only [entry?_start, ↓reduceIte, Option.some.injEq] at he'
      subst he'
      exact .inl ⟨_, he, rfl, rfl⟩
    | disposed => simp only [lookup_filter_ne, entry?, ↓reduceIte, reduceCtorEq] at he'
  · exact .inl ⟨e', (h.others hn hk).entry ▸ he', rfl, rfl⟩

/-! ### Epochs that are gone -/

/-- An epoch that is gone does not come back: a new entry takes one that was not given out yet. -/
theorem Gone.after (h : c.Gone key epoch) (hc : c.Accounted) (ha : c.Allows event) :
    (c.after event).Gone key epoch := by
  obtain ⟨hlt, hgone⟩ := h
  obtain ⟨_, hstep⟩ := hc.step_after ha
  refine ⟨Nat.lt_of_lt_of_le hlt hstep.nextEpoch_le, fun e' he' => ?_⟩
  obtain ⟨e, he, hep, -⟩ | ⟨hnew, -⟩ := hstep.entry_origin hc.numbered he'
  · rw [← hep]
    exact hgone e he
  · rw [hnew]
    exact Nat.ne_of_gt hlt

theorem Gone.afterAll {events : List CacheEvent} (h : c.Gone key epoch) (hc : c.Accounted)
    (ha : c.AllowsAll events) : (c.afterAll events).Gone key epoch := by
  induction events generalizing c with
  | nil => exact h
  | cons event events ih => exact ih (h.after hc ha.1) (hc.after ha.1) ha.2

/-- When a source is forgotten, all epochs given out so far are gone for its view. -/
theorem gone_dispose {source : Uri} (hk : assemblyUri source = .ok key)
    (hlt : epoch < c.nextEpoch) : (c.after (.dispose source)).Gone key epoch := by
  have hafter : c.after (.dispose source) =
      { c with entries := c.entries.filter (·.1 != key) } := by
    simp only [after, dispose, hk]
  rw [hafter]
  refine ⟨hlt, fun e he => ?_⟩
  simp only [lookup_filter_ne, entry?, ↓reduceIte, reduceCtorEq] at he

theorem Gone.finish {task : CompileTask} (h : c.Gone task.key task.epoch) (state : UnitState) :
    c.finish task state = (c.withoutTask task, none) := by
  simp only [CompileCache.finish]
  split
  · rfl
  · rename_i e he
    have hne : e.epoch ≠ task.epoch := h.2 e he
    rw [if_neg hne]
    rfl

theorem Gone.elapse {timer : DebounceTimer} (h : c.Gone timer.key timer.epoch) :
    c.elapse timer = c.withoutTimer timer := by
  simp only [CompileCache.elapse]
  split
  · rfl
  · rename_i e he
    have hne : e.epoch ≠ timer.epoch := h.2 e he
    rw [if_neg fun hcur => hne hcur.1]
    rfl

theorem Gone.started_finish {task : CompileTask} (h : c.Gone task.key task.epoch)
    (hn : c.Numbered) (ht : task ∈ c.running) (state : UnitState) :
    c.started (.finish task state) = [] := by
  have hafter : c.after (.finish task state) = c.withoutTask task :=
    congrArg Prod.fst (h.finish state)
  have hstep : c.Step task.key (.finish task state) (c.after (.finish task state)) [] :=
    hafter ▸ .discarded ht rfl h.2
  exact hstep.started_eq hn

theorem Gone.started_elapse {timer : DebounceTimer} (h : c.Gone timer.key timer.epoch)
    (hn : c.Numbered) (ht : timer ∈ c.timers) : c.started (.elapse timer) = [] := by
  have hold : ∀ e, c.entry? timer.key = some e → e.epoch = timer.epoch →
      e.generation ≠ timer.generation := fun e he hep => absurd hep (h.2 e he)
  have hafter : c.after (.elapse timer) = c.withoutTimer timer := h.elapse
  have hstep : c.Step timer.key (.elapse timer) (c.after (.elapse timer)) [] :=
    hafter ▸ .expired ht rfl hold
  exact hstep.started_eq hn

/-! ### Sources and views -/

/-- **Every event keeps views and sources together.** -/
theorem Sourced.after (h : c.Sourced) (hc : c.Accounted) (ha : c.Allows event) :
    (c.after event).Sourced := by
  obtain ⟨key, hstep⟩ := hc.step_after ha
  have hentries : ∀ key e, entry? (c.after event) key = some e →
      assemblyUri e.source = .ok key := by
    intro key' e' he'
    obtain ⟨e, he, -, hsource⟩ | ⟨-, hkey⟩ := hstep.entry_origin hc.numbered he'
    · rw [← hsource]
      exact h.entries key' e he
    · exact hkey
  refine ⟨hentries, fun t ht => ?_⟩
  obtain ⟨old, hsub, hrun⟩ := hstep.running_eq
  rw [hrun, List.mem_append] at ht
  obtain hold | hnew := ht
  · exact h.tasks t (hsub.subset hold)
  · -- a new task has the source of its entry
    obtain ⟨e, he, -, hk, hep⟩ := hstep.entry_of_started hnew
    have hmem : t ∈ (c.after event).running := hrun ▸ List.mem_append_right _ hnew
    have heq := (((hc.after ha).entries key e he).eq_of_mem hmem hk hep.symm).2
    have hsource : t.source = e.source := by rw [heq]
    rw [hsource, hk]
    exact hentries key e he

theorem sourced_afterAll {debounce : Nat} {events : List CacheEvent}
    (h : (initial debounce).AllowsAll events) : ((initial debounce).afterAll events).Sourced := by
  have h₀ : (initial debounce).Accounted ∧ (initial debounce).Sourced :=
    ⟨accounted_initial debounce, by simp [initial, entry?], by simp [initial]⟩
  have hrun := record_induction (I := fun _ c => c.Accounted ∧ c.Sourced) (h := [])
    (fun _ _ _ hc ha => ⟨hc.1.after ha, hc.2.after hc.1 ha⟩) h₀ h
  exact hrun.2

/-- A step is for the view of the source that its event concerns, unless it changes nothing. -/
theorem Step.key_eq_of_concerns (h : c.Step key event c' ts) (hs : c.Sourced) {source : Uri}
    (hev : event.Concerns source) : c' = c ∨ assemblyUri source = .ok key := by
  cases h with
  | refused | answered | untracked => exact .inl rfl
  | created hcall hk =>
    obtain rfl | rfl := hcall <;> exact .inr (hev ▸ hk)
  | recompiled hk | invalidated hk | disposed hk => exact .inr (hev ▸ hk)
  | elapsed _ hk | expired _ hk => exact .inr (hk ▸ hev)
  | finished ht hk | followed ht hk | discarded ht hk =>
    have hkey := hs.tasks _ ht
    rw [hev, hk] at hkey
    exact .inr hkey

/-- **An event leaves the entries of all other sources alone.** -/
theorem Sourced.find?_after (h : c.Sourced) (hc : c.Accounted) (ha : c.Allows event)
    {source other : Uri} (hev : event.Concerns source) (hne : source.chars ≠ other.chars) :
    (c.after event).find? other = c.find? other := by
  obtain ⟨key, hstep⟩ := hc.step_after ha
  obtain hsame | hsource := hstep.key_eq_of_concerns h hev
  · rw [hsame]
  · unfold find?
    cases hother : assemblyUri other with
    | error fault => rfl
    | ok key' =>
      -- sources that are written differently have different views
      have hkey : key' ≠ key := by
        rintro rfl
        exact hne (chars_eq_of_assemblyUri_eq hsource hother)
      exact (hstep.others hc.numbered hkey).entry

/-! ### The main result -/

/-- **Entries are isolated.**  In every state that a run reaches:

* A task that ran, or a timer that was set, for a source when the source was forgotten changes no
  entry when it comes to its end, tells the listeners nothing and starts no task, whatever happened
  in between, be it that the source is tracked again.
* An event that concerns one source leaves the entry of every other source as it is.  Sources are
  told apart by how they are written in full. -/
theorem entries_isolated (debounce : Nat) (events : List CacheEvent)
    (h : (initial debounce).AllowsAll events) :
    let c := (initial debounce).afterAll events
    (∀ before source later, events = before ++ .dispose source :: later →
      (∀ task ∈ ((initial debounce).afterAll before).running,
        assemblyUri source = .ok task.key → task ∈ c.running → ∀ state,
          (c.finish task state).1.entries = c.entries ∧ (c.finish task state).2 = none ∧
          c.started (.finish task state) = []) ∧
      ∀ timer ∈ ((initial debounce).afterAll before).timers,
        assemblyUri source = .ok timer.key → timer ∈ c.timers →
          (c.elapse timer).entries = c.entries ∧ c.started (.elapse timer) = []) ∧
    ∀ event source other, c.Allows event → event.Concerns source →
      source.chars ≠ other.chars → (c.after event).find? other = c.find? other := by
  intro c
  have hc : c.Accounted := accounted_afterAll h
  have hs : c.Sourced := sourced_afterAll h
  refine ⟨?_, fun event source other ha hev hne => hs.find?_after hc ha hev hne⟩
  rintro before source later rfl
  obtain ⟨hbefore, hdispose, hlater⟩ := allowsAll_append.1 h
  have hold : AllClocked _ ((initial debounce).afterAll before) := allClocked_afterAll hbefore
  have hgone : ∀ {key epoch}, assemblyUri source = .ok key →
      epoch < ((initial debounce).afterAll before).nextEpoch → c.Gone key epoch := by
    intro key epoch hk hlt
    have hrun : c = (((initial debounce).afterAll before).after (.dispose source)).afterAll later :=
      afterAll_append before (.dispose source :: later)
    rw [hrun]
    exact (gone_dispose hk hlt).afterAll (hold.accounted.after hdispose) hlater
  refine ⟨fun task ht hk hmem state => ?_, fun timer ht hk hmem => ?_⟩
  · have hg : c.Gone task.key task.epoch := hgone hk (hold.accounted.epochs task ht)
    refine ⟨?_, ?_, hg.started_finish hc.numbered hmem state⟩
    · rw [hg.finish]
      rfl
    · rw [hg.finish]
  · have hg : c.Gone timer.key timer.epoch := hgone hk (hold.epochs timer ht)
    refine ⟨?_, hg.started_elapse hc.numbered hmem⟩
    rw [hg.elapse]
    rfl

/-- The source `file:///a.cc`.  The path of its view is that of the view of `file:///a.c`. -/
def exampleSibling : Uri := { exampleSource with path := "/a.cc".toList }

/-- A source is compiled, invalidated and forgotten, and then tracked again, while another source is
compiled. -/
def retrackedRun : List CacheEvent :=
  [.get exampleSource, .invalidate exampleSource 0, .get exampleSibling, .dispose exampleSource,
    .get exampleSource]

/-- The timer of the invalidation in that run. -/
def exampleTimer : DebounceTimer :=
  { due := 100, key := exampleView, epoch := 0, generation := 1 }

/-- The first task and the timer of that run come to their ends without a trace.  So does the task
of the other source as far as the entry of the first one is concerned. -/
theorem isolated_retrackedRun :
    let c := (initial 100).afterAll retrackedRun
    (c.finish (exampleTask 0 0) (.failed default)).1.entries = c.entries ∧
    (c.elapse exampleTimer).entries = c.entries ∧
    (∃ e, c.find? exampleSource = some e ∧ e.epoch = 2) ∧
    ∃ task ∈ c.running, task.source = exampleSibling ∧
      (c.after (.finish task (.failed default))).find? exampleSource = c.find? exampleSource := by
  intro c
  have hrun : (initial 100).AllowsAll retrackedRun := by decide +kernel
  obtain ⟨hold, hother⟩ := entries_isolated 100 retrackedRun hrun
  obtain ⟨htasks, htimers⟩ := hold
    [.get exampleSource, .invalidate exampleSource 0, .get exampleSibling] exampleSource
    [.get exampleSource] rfl
  have htask := htasks (exampleTask 0 0) (by decide +kernel) assemblyUri_exampleSource
    (by decide +kernel) (.failed default)
  have htimer := htimers exampleTimer (by decide +kernel) assemblyUri_exampleSource
    (by decide +kernel)
  have hsibling : ∃ task ∈ c.running, task.source = exampleSibling := by decide +kernel
  obtain ⟨task, hmem, hsource⟩ := hsibling
  have hfinish := hother (.finish task (.failed default)) exampleSibling exampleSource hmem hsource
    (by decide +kernel)
  exact ⟨htask.1, htimer.1, by decide +kernel, task, hmem, hsource, hfinish⟩

end CompileCache

end AsmExplorer
