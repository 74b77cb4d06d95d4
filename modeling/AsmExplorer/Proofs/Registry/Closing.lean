import AsmExplorer.Proofs.Registry.FileChanges
import Mathlib.Data.List.Induction

/-!
# Entries that outlive their views

Closing a view has the cache forget its source, so one would expect a source to be tracked exactly
as long as its view is open.  There are two ways in which an entry stays without a view
(`LeavesBehind`).

The first compilation of a view is asked for some time after the view was opened.  If the view has
been closed by then, the source becomes tracked although nobody shows it.  And when all views are
closed at once, the cache keeps what it has.

Nothing removes such an entry, for only closing a view does, until the view is opened again; then it
is shown the unit that is stored, however old that is, and nothing is compiled (`tracked_not_open`).
These are the only exceptions: a source that is tracked has an open view or an entry that was left
over in one of these ways (`tracked_iff_open_or_leftOver`).
-/

namespace AsmExplorer

namespace RegistryEvent

/-- The event does not go past the views: it is neither a request for a text nor a call of the
cache. -/
def ThroughViews : RegistryEvent → Prop
  | .content _ => False
  | .cache (.elapse _) | .cache (.finish _ _) => True
  | .cache _ => False
  | _ => True

/-- The event opens the view of a document. -/
def Opens (assembly : Uri) (event : RegistryEvent) : Prop :=
  ∃ source, event = .openView source ∧ assemblyUri source = .ok assembly

end RegistryEvent

namespace ViewRegistry

/-- A source is tracked whose view is not open. -/
def Stray (r : ViewRegistry) (assembly : Uri) : Prop :=
  (r.cache.entry? assembly).isSome = true ∧ r.isOpen assembly = false

/-- The event leaves an entry without a view: the first compilation of a view is asked for that is
not open, or all views are closed and one of a tracked source with them. -/
def LeavesBehind (r : ViewRegistry) (assembly : Uri) : RegistryEvent → Prop
  | .firstCompile source => assemblyUri source = .ok assembly ∧ r.isOpen assembly = false
  | .closeAll => (r.cache.entry? assembly).isSome = true ∧ r.isOpen assembly = true
  | _ => False

/-- In a run an entry was left without a view, and the view was not opened since. -/
def LeftOver (r : ViewRegistry) (events : List RegistryEvent) (assembly : Uri) : Prop :=
  ∃ before event later, events = before ++ event :: later ∧
    (r.afterAll before).LeavesBehind assembly event ∧ ∀ event ∈ later, ¬event.Opens assembly

variable {r r' : ViewRegistry} {event : RegistryEvent} {assembly : Uri}

/-! ### What the cache tracks -/

/-- Only calls to ask for a unit, to compile it now and to forget it change what is tracked. -/
theorem isSome_entry?_step {c c' : CompileCache} {key key' : Uri} {event : CacheEvent}
    {ts : List CompileTask} (h : c.Step key event c' ts) (hn : c.Numbered)
    (hcall : ∀ source, event.source? = some source → assemblyUri source = .ok key' →
      ∃ now, event = .invalidate source now) :
    (c'.entry? key').isSome = (c.entry? key').isSome := by
  by_cases hk : key' = key
  · subst hk
    cases h with
    | refused | answered | untracked | expired | discarded => rfl
    | created hev hkey =>
      obtain rfl | rfl := hev
      · obtain ⟨_, hnot⟩ := hcall _ rfl hkey
        cases hnot
      · obtain ⟨_, hnot⟩ := hcall _ rfl hkey
        cases hnot
    | disposed hkey =>
      obtain ⟨_, hnot⟩ := hcall _ rfl hkey
      cases hnot
    | recompiled _ he | elapsed _ _ he =>
      rw [he, CompileCache.entry?_request, if_pos rfl]
      rfl
    | invalidated _ he | finished _ _ he =>
      rw [he, CompileCache.entry?_put, if_pos rfl]
      rfl
    | followed _ _ he =>
      rw [he, CompileCache.entry?_start, if_pos rfl]
      rfl
  · rw [(h.others hn hk).entry]

theorem isSome_entry?_afterAll {c : CompileCache} {key : Uri} {events : List CacheEvent}
    (h : c.Accounted) (ha : c.AllowsAll events)
    (hcall : ∀ event ∈ events, ∀ source, event.source? = some source →
      assemblyUri source = .ok key → ∃ now, event = .invalidate source now) :
    (CompileCache.entry? (c.afterAll events) key).isSome = (c.entry? key).isSome := by
  induction events generalizing c with
  | nil => rfl
  | cons event events ih =>
    obtain ⟨_, hstep⟩ := h.step_after ha.1
    have hrest := ih (h.after ha.1) ha.2 fun event he => hcall event (List.mem_cons_of_mem _ he)
    have hfirst := isSome_entry?_step hstep h.numbered (hcall event List.mem_cons_self)
    exact hrest.trans hfirst

theorem isOpen_congr (h : r'.documents = r.documents) : r'.isOpen assembly = r.isOpen assembly := by
  rw [Bool.eq_iff_iff, isOpen_iff, isOpen_iff, h]

/-- An event that does not change which views are open, and does not touch what the cache tracks for
a view, changes nothing about stray entries of it. -/
theorem stray_congr (hcache : (r'.cache.entry? assembly).isSome = (r.cache.entry? assembly).isSome)
    (hopen : r'.isOpen assembly = r.isOpen assembly) : r'.Stray assembly ↔ r.Stray assembly := by
  rw [Stray, Stray, hcache, hopen]

/-! ### Every event -/

theorem Opened.isOpen {source : Uri} (h : Opened r source r')
    (hk : assemblyUri source = .ok assembly) :
    r'.isOpen assembly = true := by
  rw [isOpen_iff]
  cases h with
  | refused hf => simp [hf] at hk
  | already hk' hopen =>
    rw [hk', Except.ok.injEq] at hk
    exact hk ▸ isOpen_iff.1 hopen
  | stored hk' | fresh hk' =>
    rw [hk', Except.ok.injEq] at hk
    subst hk
    rw [documents, List.map_append]
    exact ⟨_, List.mem_append_right _ (List.mem_singleton_self _), rfl⟩

theorem Opened.isOpen_other {source : Uri} (h : Opened r source r')
    (hk : assemblyUri source ≠ .ok assembly) : r'.isOpen assembly = r.isOpen assembly := by
  cases h with
  | refused | already => rfl
  | stored hk' | fresh hk' =>
    rw [Bool.eq_iff_iff, isOpen_iff, isOpen_iff, documents, List.map_append, List.map_singleton]
    constructor
    · rintro ⟨d, hd, rfl⟩
      obtain hd | hd := List.mem_append.1 hd
      · exact ⟨d, hd, rfl⟩
      · rw [List.mem_singleton] at hd
        subst hd
        exact absurd hk' hk
    · rintro ⟨d, hd, hassembly⟩
      exact ⟨d, List.mem_append_left _ hd, hassembly⟩

theorem stray_openView (source : Uri) : (r.after (.openView source)).Stray assembly ↔
    r.Stray assembly ∧ ¬(RegistryEvent.openView source).Opens assembly := by
  have hopened := opened_spec r source
  have hcache : (r.after (.openView source)).cache = r.cache := hopened.cache_eq
  by_cases hk : assemblyUri source = .ok assembly
  · have hopen : (r.after (.openView source)).isOpen assembly = true := hopened.isOpen hk
    refine iff_of_false ?_ fun h => h.2 ⟨source, rfl, hk⟩
    rintro ⟨-, hclosed⟩
    simp [hopen] at hclosed
  · have hnot : ¬(RegistryEvent.openView source).Opens assembly := by
      rintro ⟨s, heq, hs⟩
      cases heq
      exact hk hs
    have hsame := stray_congr (congrArg (fun c => (CompileCache.entry? c assembly).isSome) hcache)
      (hopened.isOpen_other hk)
    exact hsame.trans (and_iff_left hnot).symm

theorem Wired.stray_closeView (h : r.Wired) (a : Uri) :
    (r.after (.closeView a)).Stray assembly ↔ r.Stray assembly := by
  have hdocuments := documents_closeView (r := r) a
  by_cases hk : a = assembly
  · subst hk
    cases hview : r.view? a with
    | none =>
      have hsame : r.after (.closeView a) = r := by simp only [ViewRegistry.after, closeView, hview]
      rw [hsame]
    | some v =>
      -- the view is open, and its entry is forgotten
      have hkey : assemblyUri v.source = .ok a := h.key_of_view? hview
      have hnone : (r.after (.closeView a)).cache.entry? a = none := by
        simp only [ViewRegistry.after, closeView, hview, CompileCache.dispose, hkey,
          CompileCache.entry?, CompileCache.lookup_filter_ne, ↓reduceIte]
      refine iff_of_false ?_ ?_
      · rintro ⟨htracked, -⟩
        simp [hnone] at htracked
      · rintro ⟨-, hclosed⟩
        have hopen : r.isOpen a = true := by rw [isOpen, hview]; rfl
        simp [hopen] at hclosed
  · refine stray_congr ?_ ?_
    · rw [cache_after]
      refine isSome_entry?_afterAll h.accounted (allowsAll_cacheEvents trivial) ?_
      intro event he source hs hsource
      simp only [cacheEvents, List.mem_map, Option.mem_toList] at he
      obtain ⟨v, hv, rfl⟩ := he
      cases hs
      -- the source that is forgotten is that of another view
      have hsame : a = assembly := Except.ok.inj ((h.key_of_view? hv).symm.trans hsource)
      exact absurd hsame hk
    · rw [Bool.eq_iff_iff, isOpen_iff, isOpen_iff]
      change (∃ d ∈ (r.closeView a).documents, _) ↔ _
      rw [hdocuments]
      constructor
      · rintro ⟨d, hd, hassembly⟩
        exact ⟨d, (List.mem_filter.1 hd).1, hassembly⟩
      · rintro ⟨d, hd, rfl⟩
        exact ⟨d, List.mem_filter.2 ⟨hd, by simpa using Ne.symm hk⟩, rfl⟩

theorem stray_closeAll : (r.after .closeAll).Stray assembly ↔
    r.Stray assembly ∨ r.LeavesBehind assembly .closeAll := by
  have hclosed : (r.after .closeAll).isOpen assembly = false := rfl
  have hcache : (r.after .closeAll).cache = r.cache := rfl
  rw [Stray, Stray, hclosed, hcache, LeavesBehind]
  cases r.isOpen assembly <;> simp

theorem Wired.stray_firstCompile (h : r.Wired) (source : Uri) :
    (r.after (.firstCompile source)).Stray assembly ↔
      r.Stray assembly ∨ r.LeavesBehind assembly (.firstCompile source) := by
  have hopen : (r.after (.firstCompile source)).isOpen assembly = r.isOpen assembly := rfl
  by_cases hk : assemblyUri source = .ok assembly
  · obtain ⟨e, he⟩ := h.accounted.entry_get hk
    have htracked : ((r.after (.firstCompile source)).cache.entry? assembly).isSome = true :=
      Option.isSome_iff_exists.2 ⟨e, he⟩
    rw [Stray, Stray, hopen, htracked, LeavesBehind]
    constructor
    · intro hstray
      exact .inr ⟨hk, hstray.2⟩
    · rintro (hstray | hleft)
      · exact ⟨rfl, hstray.2⟩
      · exact ⟨rfl, hleft.2⟩
  · have hcache : ((r.after (.firstCompile source)).cache.entry? assembly).isSome =
        (r.cache.entry? assembly).isSome := by
      rw [cache_after]
      refine isSome_entry?_afterAll h.accounted ⟨trivial, trivial⟩ fun event he s hs hsource => ?_
      rw [cacheEvents, List.mem_singleton] at he
      subst he
      cases hs
      exact absurd hsource hk
    rw [stray_congr hcache hopen]
    exact (or_iff_left fun hleft => hk hleft.1).symm

/-- **What an event does to stray entries.**  An entry is stray after an event if it was before and
its view is not opened, or if the event leaves it behind. -/
theorem Wired.stray_after (h : r.Wired) (ha : r.Allows event) (hev : event.ThroughViews) :
    (r.after event).Stray assembly ↔
      r.Stray assembly ∧ ¬event.Opens assembly ∨ r.LeavesBehind assembly event := by
  -- events that neither open views nor leave entries behind
  have hsame : (¬event.Opens assembly) → ¬r.LeavesBehind assembly event →
      ((r.after event).Stray assembly ↔ r.Stray assembly) →
      ((r.after event).Stray assembly ↔
        r.Stray assembly ∧ ¬event.Opens assembly ∨ r.LeavesBehind assembly event) := by
    intro hopens hleaves hstray
    rw [hstray, and_iff_left hopens, or_iff_left hleaves]
  have hnot : (∀ source, event ≠ .openView source) → ¬event.Opens assembly := by
    rintro hne ⟨source, heq, -⟩
    exact hne source heq
  have hcache : (∀ e ∈ r.cacheEvents event, ∀ source, e.source? = some source →
      assemblyUri source = .ok assembly → ∃ now, e = .invalidate source now) →
      ((r.after event).cache.entry? assembly).isSome = (r.cache.entry? assembly).isSome := by
    intro hcalls
    rw [cache_after]
    exact isSome_entry?_afterAll h.accounted (allowsAll_cacheEvents ha) hcalls
  cases event with
  | openView source => exact (stray_openView source).trans (or_iff_left id).symm
  | closeView a => exact hsame (hnot (by simp)) id (h.stray_closeView a)
  | closeAll =>
    rw [and_iff_left (hnot (by simp))]
    exact stray_closeAll
  | firstCompile source =>
    rw [and_iff_left (hnot (by simp))]
    exact h.stray_firstCompile source
  | content => exact hev.elim
  | cache event =>
    refine hsame (hnot (by simp)) id (stray_congr (hcache ?_) (isOpen_congr (documents_told _)))
    intro e he source hs
    obtain rfl : e = event := List.mem_singleton.1 he
    cases e with
    | elapse | finish => cases hs
    | _ => exact hev.elim
  | fileChanged file now =>
    refine hsame (hnot (by simp)) id (stray_congr (hcache ?_) rfl)
    intro e he source hs _
    obtain ⟨s, -, rfl⟩ := List.mem_map.1 he
    cases hs
    exact ⟨now, rfl⟩
  | settingsChanged sources =>
    refine hsame (hnot (by simp)) id ?_
    by_cases hopen : r.isOpen assembly = true
    · -- the view is open, so its entry is not stray, tracked or not
      have hopen' : (r.after (.settingsChanged sources)).isOpen assembly = true := hopen
      rw [Stray, Stray, hopen, hopen']
      simp
    · refine stray_congr (hcache ?_) rfl
      intro e he source hs hsource
      obtain ⟨s, hmem, rfl⟩ := List.mem_map.1 he
      cases hs
      obtain ⟨v, hv, rfl⟩ := List.mem_map.1 (List.mem_filter.1 hmem).1
      have hkey := h.keys _ (List.mem_map_of_mem hv)
      obtain rfl : v.assembly = assembly := Except.ok.inj (hkey.symm.trans hsource)
      exact absurd (isOpen_of_mem hv) hopen
  | selectionChanged | visibleEditorsChanged =>
    exact hsame (hnot (by simp)) id (stray_congr rfl (isOpen_congr (documents_broadcast _)))
  | editorsChanged => exact hsame (hnot (by simp)) id (stray_congr rfl rfl)
  | work index =>
    refine hsame (hnot (by simp)) id
      (stray_congr (hcache ?_) (isOpen_congr (documents_worked index)))
    simp [cacheEvents]
  | workClosing index =>
    refine hsame (hnot (by simp)) id
      (stray_congr (hcache ?_) (isOpen_congr (documents_workedClosing index)))
    simp [cacheEvents]

/-! ### Runs -/

/-- At the end of a run an entry is left over if it was before the last event and its view was not
opened then, or if the last event left it behind. -/
theorem leftOver_append_singleton {events : List RegistryEvent} :
    r.LeftOver (events ++ [event]) assembly ↔
      r.LeftOver events assembly ∧ ¬event.Opens assembly ∨
        (r.afterAll events).LeavesBehind assembly event := by
  constructor
  · rintro ⟨before, left, later, heq, hleaves, hlater⟩
    induction later using List.reverseRecOn with
    | nil =>
      obtain ⟨rfl, hlast⟩ := List.append_inj' heq rfl
      obtain rfl : event = left := List.singleton_inj.1 hlast
      exact .inr hleaves
    | append_singleton later last =>
      rw [← List.cons_append, ← List.append_assoc] at heq
      obtain ⟨rfl, hlast⟩ := List.append_inj' heq rfl
      obtain rfl : event = last := List.singleton_inj.1 hlast
      refine .inl ⟨⟨before, left, later, rfl, hleaves, fun e he => ?_⟩, ?_⟩
      · exact hlater e (List.mem_append_left _ he)
      · exact hlater event (List.mem_append_right _ (List.mem_singleton_self _))
  · rintro (⟨⟨before, left, later, rfl, hleaves, hlater⟩, hopens⟩ | hleaves)
    · refine ⟨before, left, later ++ [event], by simp, hleaves, fun e he => ?_⟩
      obtain he | he := List.mem_append.1 he
      · exact hlater e he
      · rw [List.mem_singleton] at he
        exact he ▸ hopens
    · exact ⟨events, event, [], rfl, hleaves, by simp⟩

/-- **In a run that does not go past the views, the stray entries are those left over.** -/
theorem Wired.stray_iff_leftOver (h : r.Wired) (hstart : ¬r.Stray assembly)
    {events : List RegistryEvent} (ha : r.AllowsAll events)
    (hev : ∀ event ∈ events, event.ThroughViews) :
    (r.afterAll events).Stray assembly ↔ r.LeftOver events assembly := by
  induction events using List.reverseRecOn with
  | nil =>
    refine iff_of_false hstart ?_
    rintro ⟨before, event, later, heq, -⟩
    simp at heq
  | append_singleton events event ih =>
    obtain ⟨hevents, hevent, -⟩ := allowsAll_append.1 ha
    have hbefore := ih hevents fun e he => hev e (List.mem_append_left _ he)
    have hlast := hev event (List.mem_append_right _ (List.mem_singleton_self _))
    rw [leftOver_append_singleton, ← hbefore, afterAll_append]
    exact (h.afterAll hevents).stray_after hevent hlast

/-- A view of a source that is not tracked is compiled when it is opened. -/
theorem Wired.compiled_of_not_tracked (h : r.Wired) {source : Uri}
    (hk : assemblyUri source = .ok assembly) (hopen : r.isOpen assembly = false)
    (hnone : r.cache.entry? assembly = none) :
    source ∈ (r.after (.openView source)).opening ∧
      ∃ t, (r.after (.openView source)).cache.started (.get source) = [t] ∧ t.key = assembly := by
  have hopened := opened_spec r source
  have hcache : (r.after (.openView source)).cache = r.cache := hopened.cache_eq
  constructor
  · change source ∈ (r.opened source).opening
    generalize r.opened source = r' at hopened
    cases hopened with
    | refused hf => simp [hf] at hk
    | already hk' hopen' =>
      rw [hk', Except.ok.injEq] at hk
      simp [hk, hopen] at hopen'
    | stored hk' _ hstored =>
      rw [hk', Except.ok.injEq] at hk
      simp [CompileCache.stored?, find?_eq_entry? hk', hk, hnone] at hstored
    | fresh => exact List.mem_append_right _ (List.mem_singleton_self _)
  · rw [hcache]
    obtain ⟨_, hstep⟩ := h.accounted.step_after (show r.cache.Allows (.get source) from trivial)
    have hstarts : r.cache.StartsFor assembly (.get source) := ⟨hk, hnone⟩
    obtain ⟨t, ht, htk⟩ := hstep.exists_started_iff.2 hstarts
    obtain hnil | ⟨e, hone⟩ := hstep.tasks_eq
    · simp [hnil] at ht
    · rw [hone, List.mem_singleton] at ht
      exact ⟨t, by rw [hone, ht], htk⟩

/-! ### The main result -/

/-- **What is tracked.**  In every state that a run reaches in which nobody goes past the views, and
for every source that can have a view:

* if no first compilation is due, the source is tracked exactly if its view is open or its entry was
  left over;
* if its view is not open and its entry was not left over, then opening the view makes a first
  compilation due, and that starts a task. -/
theorem tracked_iff_open_or_leftOver (settings : SyncSettings) (host : Host) (debounce : Nat)
    (events : List RegistryEvent) (h : (initial settings host debounce).AllowsAll events)
    (hev : ∀ event ∈ events, event.ThroughViews) :
    let start := initial settings host debounce
    let r := start.afterAll events
    ∀ source assembly, assemblyUri source = .ok assembly →
      (r.opening = [] → (r.cache.isTracked source = true ↔
        r.isOpen assembly = true ∨ start.LeftOver events assembly)) ∧
      (r.isOpen assembly = false → ¬start.LeftOver events assembly →
        source ∈ (r.after (.openView source)).opening ∧
        ∃ t, (r.after (.openView source)).cache.started (.get source) = [t] ∧
          t.key = assembly) := by
  intro start r source assembly hk
  have hstart : start.Wired := wired_initial settings host debounce
  have hr : r.Wired := hstart.afterAll h
  have hstray : r.Stray assembly ↔ start.LeftOver events assembly :=
    hstart.stray_iff_leftOver (fun hstray => by cases hstray.1) h hev
  have htracked : r.cache.isTracked source = (r.cache.entry? assembly).isSome := by
    rw [CompileCache.isTracked, find?_eq_entry? hk]
  refine ⟨fun hopening => ?_, fun hopen hleft => ?_⟩
  · rw [htracked, ← hstray]
    cases hopen : r.isOpen assembly with
    | true =>
      obtain ⟨d, hd, rfl⟩ := isOpen_iff.1 hopen
      have hentry : (r.cache.entry? d.assembly).isSome = true := by
        obtain he | hdue := hr.tracked d hd
        · exact Option.isSome_iff_exists.2 he
        · simp [hopening] at hdue
      simp [hentry]
    | false => simp [Stray, hopen]
  · refine hr.compiled_of_not_tracked hk hopen ?_
    rw [← hstray, Stray, not_and_or] at hleft
    simpa [hopen] using hleft

/-- A view is closed before its first compilation is asked for. -/
def lateFirstRun : List RegistryEvent :=
  [.openView exampleSource, .closeView exampleView, .firstCompile exampleSource,
    .cache (.finish (exampleTask 0 0) (.compiled exampleUnit))]

/-- A view is compiled, and all views are closed at once. -/
def closedAtOnceRun : List RegistryEvent :=
  compiledRun ++ [.closeAll]

/-- A view is compiled and closed. -/
def closedRun : List RegistryEvent :=
  compiledRun ++ [.closeView exampleView]

theorem throughViews_lateFirstRun : ∀ event ∈ lateFirstRun, event.ThroughViews := by
  simp [lateFirstRun, RegistryEvent.ThroughViews]

theorem throughViews_closedAtOnceRun : ∀ event ∈ closedAtOnceRun, event.ThroughViews := by
  simp [closedAtOnceRun, compiledRun, RegistryEvent.ThroughViews]

/-- The entry of the first run is left over.  That of the last run is not, and the view would be
compiled again. -/
theorem leftOver_lateFirstRun :
    (initial {} {} 100).LeftOver lateFirstRun exampleView ∧
      ¬(initial {} {} 100).LeftOver closedRun exampleView ∧
      exampleSource ∈ (((initial {} {} 100).afterAll closedRun).after
        (.openView exampleSource)).opening := by
  have hlate := tracked_iff_open_or_leftOver {} {} 100 lateFirstRun (by decide +kernel)
    throughViews_lateFirstRun exampleSource exampleView assemblyUri_exampleSource
  have hclosed := tracked_iff_open_or_leftOver {} {} 100 closedRun (by decide +kernel)
    (by simp [closedRun, compiledRun, RegistryEvent.ThroughViews]) exampleSource exampleView
    assemblyUri_exampleSource
  have hleft : ¬(initial {} {} 100).LeftOver closedRun exampleView := by
    intro hleft
    have htracked := (hclosed.1 (by decide +kernel)).2 (.inr hleft)
    have huntracked : ((initial {} {} 100).afterAll closedRun).cache.isTracked exampleSource =
        false := by decide +kernel
    simp [huntracked] at htracked
  refine ⟨?_, hleft, (hclosed.2 (by decide +kernel) hleft).1⟩
  exact ((hlate.1 (by decide +kernel)).1 (by decide +kernel)).resolve_left (by decide +kernel)

/-- After the first run nothing is left to do, no view is open, and the source is tracked all the
same; when the view is opened again it is told the old unit, and nothing is compiled.  After the
second run the source is tracked without a view as well. -/
theorem tracked_not_open :
    let late := (initial {} {} 100).afterAll lateFirstRun
    let again := late.after (.openView exampleSource)
    let closed := (initial {} {} 100).afterAll closedAtOnceRun
    ((initial {} {} 100).AllowsAll lateFirstRun ∧ (∀ event ∈ lateFirstRun, event.ThroughViews) ∧
      late.Quiet ∧ late.isOpen exampleView = false ∧ late.cache.isTracked exampleSource = true ∧
      again.isOpen exampleView = true ∧
      ∀ work, again.AllowsAll work → (∀ event ∈ work, event.IsWork) →
        ¬again.Compiles work exampleView) ∧
    (initial {} {} 100).AllowsAll closedAtOnceRun ∧
      (∀ event ∈ closedAtOnceRun, event.ThroughViews) ∧ closed.Quiet ∧
      closed.isOpen exampleView = false ∧ closed.cache.isTracked exampleSource = true := by
  intro late again closed
  have hquiet : again.Quiet := by decide +kernel
  refine ⟨⟨by decide +kernel, throughViews_lateFirstRun, by decide +kernel, by decide +kernel,
    by decide +kernel, by decide +kernel, fun work ha hw => hquiet.not_compiles ha hw⟩,
    by decide +kernel, throughViews_closedAtOnceRun, by decide +kernel, by decide +kernel,
    by decide +kernel⟩

end ViewRegistry

end AsmExplorer
