import AsmExplorer.Proofs.Cache.Requests
import AsmExplorer.Proofs.View.Documents

/-!
# Runs of the open views

The open views change by *events*: the host reports something, somebody asks for the text of a
document, or work that was left to do is done.  There are four kinds of such work, and each goes on
by itself (`RegistryEvent.IsWork`): a timer elapses, a compilation finishes, the first compilation
of a source is asked for, and a view carries out its oldest command.  Nothing is assumed about their
order.

* `ViewRegistry.after`, `Allows` : the registry after an event, and which events are possible.
  Whoever else holds the cache may call it too, but not have it forget the source of an open view.
* `ViewRegistry.cacheEvents` : what an event does to the cache.  A run of the registry is a run of
  its cache (`cache_afterAll`, `allowsAll_cacheRun`), so what is known of all runs of the cache
  holds here.
* `ViewRegistry.Wired` : the documents of the views are those of their sources, and all different,
  and the source of an open view is tracked or its first compilation is due.
-/

namespace AsmExplorer

/-- What can happen to the open views. -/
inductive RegistryEvent where
  /-- The view of a source is opened. -/
  | openView (source : Uri)
  /-- The view of an assembly document is closed. -/
  | closeView (assembly : Uri)
  /-- All views are closed. -/
  | closeAll
  /-- A selection moved. -/
  | selectionChanged (change : SelectionChange)
  /-- Other editors are visible. -/
  | visibleEditorsChanged
  /-- The user changes the editors, or which of them are visible. -/
  | editorsChanged (editors : List Editor) (visible : List String)
  /-- A file was saved at a time. -/
  | fileChanged (file : Uri) (now : Nat)
  /-- The compile settings of sources changed. -/
  | settingsChanged (sources : List Uri)
  /-- The text of an assembly document is asked for. -/
  | content (assembly : Uri)
  /-- Somebody calls the cache, a timer elapses, or a task finishes. -/
  | cache (event : CacheEvent)
  /-- The first compilation of a source is asked for. -/
  | firstCompile (source : Uri)
  /-- The open view at a place carries out its oldest command. -/
  | work (index : Nat)
  /-- The closed view at a place carries out its oldest command, or ends if there is none. -/
  | workClosing (index : Nat)

namespace RegistryEvent

/-- The event closes the view of a document. -/
def Closes (assembly : Uri) : RegistryEvent → Prop
  | .closeView a => a = assembly
  | .closeAll => True
  | _ => False

/-- The event is work that goes on by itself. -/
def IsWork : RegistryEvent → Prop
  | .cache (.elapse _) | .cache (.finish _ _) | .firstCompile _ | .work _ | .workClosing _ => True
  | _ => False

end RegistryEvent

/-- The news of an event. -/
def CompileCache.news (c : CompileCache) : CacheEvent → Option UnitChanged
  | .finish task state => (c.finish task state).2
  | _ => none

namespace ViewRegistry

/-! ### Events -/

/-- Which events are possible: calls come at any time, and work is done only if it is left to do. -/
def Allows (r : ViewRegistry) : RegistryEvent → Prop
  | .cache (.dispose source) => ∀ v ∈ r.views, assemblyUri source ≠ .ok v.assembly
  | .cache event => r.cache.Allows event
  | .firstCompile source => source ∈ r.opening
  | .work index => ∃ v ∈ r.views[index]?, v.queue ≠ []
  | .workClosing index => index < r.closing.length
  | _ => True

/-- The registry when the view of a source is opened, which does nothing for a source that can have
no view. -/
def opened (r : ViewRegistry) (source : Uri) : ViewRegistry :=
  match r.openView source with
  | .ok (r', _) => r'
  | .error _ => r

/-- The registry when the news of the cache has been told. -/
def told (r : ViewRegistry) : Option UnitChanged → ViewRegistry
  | some news => r.unitChanged news
  | none => r

/-- The registry when the open view at a place has carried out its oldest command. -/
def worked (r : ViewRegistry) (index : Nat) : ViewRegistry :=
  match r.views[index]? with
  | none => r
  | some v => { r with host := (v.work r.host).2, views := r.views.set index (v.work r.host).1 }

/-- The registry when the closed view at a place has carried out its oldest command or has ended. -/
def workedClosing (r : ViewRegistry) (index : Nat) : ViewRegistry :=
  match r.closing[index]? with
  | none => r
  | some v =>
    if v.queue = [] then { r with closing := r.closing.eraseIdx index }
    else
      { r with host := (v.work r.host).2, closing := r.closing.set index (v.work r.host).1 }

/-- The registry after an event. -/
def after (r : ViewRegistry) : RegistryEvent → ViewRegistry
  | .openView source => r.opened source
  | .closeView assembly => r.closeView assembly
  | .closeAll => r.closeAll
  | .selectionChanged change => r.selectionChanged change
  | .visibleEditorsChanged => r.visibleEditorsChanged
  | .editorsChanged editors visible => { r with host := { r.host with editors, visible } }
  | .fileChanged file now => r.fileChanged file now
  | .settingsChanged sources => r.settingsChanged sources
  | .content assembly => ((r.content? assembly).map Prod.fst).getD r
  | .cache event => told { r with cache := r.cache.after event } (r.cache.news event)
  | .firstCompile source =>
    { r with
      opening := r.opening.erase source
      cache := (r.cache.getOrCompile source).1 }
  | .work index => r.worked index
  | .workClosing index => r.workedClosing index

/-- What an event does to the cache. -/
def cacheEvents (r : ViewRegistry) : RegistryEvent → List CacheEvent
  | .closeView assembly => (r.view? assembly).toList.map fun v => .dispose v.source
  | .fileChanged file now =>
    ((r.views.map OpenView.source).filter (r.dependsOn · file)).map (.invalidate · now)
  | .settingsChanged sources =>
    ((r.views.map OpenView.source).filter sources.contains).map .recompile
  | .content assembly => (sourceOfAssembly? assembly).toList.map .get
  | .cache event => [event]
  | .firstCompile source => [.get source]
  | _ => []

/-- No view is open, and nothing has happened to the cache. -/
def initial (settings : SyncSettings) (host : Host) (debounce : Nat) : ViewRegistry :=
  { settings, host, cache := .initial debounce }

/-! ### Runs -/

/-- The registry after a run. -/
def afterAll (r : ViewRegistry) : List RegistryEvent → ViewRegistry
  | [] => r
  | event :: events => (r.after event).afterAll events

/-- A run is possible. -/
def AllowsAll (r : ViewRegistry) : List RegistryEvent → Prop
  | [] => True
  | event :: events => r.Allows event ∧ (r.after event).AllowsAll events

/-- What a run does to the cache. -/
def cacheRun (r : ViewRegistry) : List RegistryEvent → List CacheEvent
  | [] => []
  | event :: events => r.cacheEvents event ++ (r.after event).cacheRun events

variable {r : ViewRegistry} {event : RegistryEvent}

theorem afterAll_append (events later : List RegistryEvent) :
    r.afterAll (events ++ later) = (r.afterAll events).afterAll later := by
  induction events generalizing r with
  | nil => rfl
  | cons event events ih => exact ih

theorem allowsAll_append {events later : List RegistryEvent} :
    r.AllowsAll (events ++ later) ↔ r.AllowsAll events ∧ (r.afterAll events).AllowsAll later := by
  induction events generalizing r with
  | nil => simp [AllowsAll, afterAll]
  | cons event events ih => simp only [List.cons_append, AllowsAll, afterAll, ih, and_assoc]

theorem cacheRun_append (events later : List RegistryEvent) :
    r.cacheRun (events ++ later) = r.cacheRun events ++ (r.afterAll events).cacheRun later := by
  induction events generalizing r with
  | nil => rfl
  | cons event events ih =>
    simp only [List.cons_append, cacheRun, afterAll, ih, List.append_assoc]

/-- **Induction over runs.**  What holds of a registry, and is kept by every possible event, is kept
by every run. -/
theorem run_induction {I : ViewRegistry → Prop}
    (hstep : ∀ r event, I r → r.Allows event → I (r.after event)) {events : List RegistryEvent}
    (h₀ : I r) (hrun : r.AllowsAll events) : I (r.afterAll events) := by
  induction events generalizing r with
  | nil => exact h₀
  | cons event events ih => exact ih (hstep r event h₀ hrun.1) hrun.2

/-! ### The cache in a run -/

theorem afterAll_map {α : Type} (f : α → CacheEvent) (l : List α) (c : CompileCache) :
    c.afterAll (l.map f) = l.foldl (fun c a => c.after (f a)) c := by
  induction l generalizing c with
  | nil => rfl
  | cons a l ih => exact ih _

/-- A view that has just been opened. -/
def newView (r : ViewRegistry) (source assembly : Uri) : OpenView :=
  { sync := { docs := { primary := source, assembly }, settings := r.settings }
    queue := [.refresh] }

/-- What opening the view of a source comes to. -/
inductive Opened (r : ViewRegistry) (source : Uri) : ViewRegistry → Prop where
  /-- The source can have no view. -/
  | refused {fault : DocumentFault} : assemblyUri source = .error fault → Opened r source r
  /-- The view is open. -/
  | already {assembly : Uri} :
      assemblyUri source = .ok assembly → r.isOpen assembly = true → Opened r source r
  /-- The stored outcome is shown. -/
  | stored {assembly : Uri} {outcome : CompileOutcome} :
      assemblyUri source = .ok assembly → r.isOpen assembly = false →
      r.cache.stored? source = some outcome →
      Opened r source
        { r with views := r.views ++ [(r.newView source assembly).send (.unit outcome.state)] }
  /-- The first compilation is due. -/
  | fresh {assembly : Uri} :
      assemblyUri source = .ok assembly → r.isOpen assembly = false →
      r.cache.stored? source = none →
      Opened r source
        { r with
          views := r.views ++ [r.newView source assembly]
          opening := r.opening ++ [source] }

theorem opened_spec (r : ViewRegistry) (source : Uri) : Opened r source (r.opened source) := by
  unfold opened openView
  cases hkey : assemblyUri source with
  | error fault => exact .refused hkey
  | ok assembly =>
    cases hopen : r.isOpen assembly with
    | true =>
      simp only [bind, Except.bind, pure, Except.pure, hopen, ↓reduceIte]
      exact .already hkey hopen
    | false =>
      simp only [bind, Except.bind, pure, Except.pure, hopen, Bool.false_eq_true, ↓reduceIte]
      cases hstored : r.cache.stored? source with
      | some outcome => exact .stored hkey hopen hstored
      | none => exact .fresh hkey hopen hstored

theorem Opened.cache_eq {source : Uri} {r' : ViewRegistry} (h : Opened r source r') :
    r'.cache = r.cache := by
  cases h <;> rfl

@[simp] theorem cache_told (news : Option UnitChanged) : (r.told news).cache = r.cache := by
  cases news with
  | none => rfl
  | some news => unfold told unitChanged; dsimp only; split <;> rfl

@[simp] theorem cache_worked (index : Nat) : (r.worked index).cache = r.cache := by
  unfold worked; split <;> rfl

@[simp] theorem cache_workedClosing (index : Nat) :
    (r.workedClosing index).cache = r.cache := by
  unfold workedClosing; split
  · rfl
  · split <;> rfl

/-- An event does to the cache what `cacheEvents` says. -/
theorem cache_after (r : ViewRegistry) (event : RegistryEvent) :
    (r.after event).cache = r.cache.afterAll (r.cacheEvents event) := by
  cases event with
  | openView source => exact (opened_spec r source).cache_eq
  | closeView assembly =>
    simp only [after, closeView, cacheEvents]
    cases r.view? assembly <;> rfl
  | fileChanged file now => exact (afterAll_map (.invalidate · now) _ _).symm
  | settingsChanged sources => exact (afterAll_map .recompile _ _).symm
  | content assembly =>
    simp only [after, content?, cacheEvents]
    cases sourceOfAssembly? assembly <;> rfl
  | cache event => exact cache_told _
  | work index => exact cache_worked index
  | workClosing index => exact cache_workedClosing index
  | closeAll | selectionChanged | visibleEditorsChanged | editorsChanged | firstCompile => rfl

theorem allowsAll_map {α : Type} {f : α → CacheEvent} (h : ∀ c a, CompileCache.Allows c (f a))
    (l : List α) (c : CompileCache) : c.AllowsAll (l.map f) := by
  induction l generalizing c with
  | nil => trivial
  | cons a l ih => exact ⟨h c a, ih _⟩

theorem allowsAll_cacheEvents (h : r.Allows event) : r.cache.AllowsAll (r.cacheEvents event) := by
  cases event with
  | closeView | fileChanged | settingsChanged | content =>
    refine allowsAll_map ?_ _ _
    exact fun _ _ => trivial
  | cache event =>
    refine ⟨?_, trivial⟩
    cases event with
    | dispose => trivial
    | _ => exact h
  | firstCompile => exact ⟨trivial, trivial⟩
  | _ => trivial

/-- **A run of the registry is a run of its cache.** -/
theorem cache_afterAll (r : ViewRegistry) (events : List RegistryEvent) :
    (r.afterAll events).cache = r.cache.afterAll (r.cacheRun events) := by
  induction events generalizing r with
  | nil => rfl
  | cons event events ih =>
    rw [afterAll, ih, cache_after, cacheRun, CompileCache.afterAll_append]

theorem allowsAll_cacheRun {events : List RegistryEvent} (h : r.AllowsAll events) :
    r.cache.AllowsAll (r.cacheRun events) := by
  induction events generalizing r with
  | nil => trivial
  | cons event events ih =>
    rw [cacheRun, CompileCache.allowsAll_append, ← cache_after]
    exact ⟨allowsAll_cacheEvents h.1, ih h.2⟩

/-! ### The documents of the views -/

/-- The documents of the open views, in order. -/
def documents (r : ViewRegistry) : List ViewDocuments :=
  r.views.map fun v => v.sync.docs

theorem docs_work (v : OpenView) (host : Host) : (v.work host).1.sync.docs = v.sync.docs := by
  unfold OpenView.work
  split
  · rfl
  · exact congrArg Prod.fst (Synced.given_handle _)

@[simp] theorem documents_broadcast (command : ViewCommand) :
    (r.broadcast command).documents = r.documents := by
  simp only [documents, broadcast, List.map_map]
  rfl

@[simp] theorem documents_sendTo (assembly : Uri) (command : ViewCommand) :
    (r.sendTo assembly command).documents = r.documents := by
  simp only [documents, sendTo, List.map_map]
  refine List.map_congr_left fun v _ => ?_
  simp only [Function.comp]
  split <;> rfl

@[simp] theorem documents_told (news : Option UnitChanged) :
    (r.told news).documents = r.documents := by
  cases news with
  | none => rfl
  | some news =>
    unfold told unitChanged
    dsimp only
    split
    · exact documents_sendTo _ _
    · rfl

theorem map_set_of_eq {α β : Type} {f : α → β} {l : List α} {i : Nat} {a b : α}
    (ha : l[i]? = some a) (hf : f b = f a) : (l.set i b).map f = l.map f := by
  induction l generalizing i with
  | nil => rfl
  | cons x l ih =>
    cases i with
    | zero =>
      obtain rfl : x = a := by simpa using ha
      simp only [List.set_cons_zero, List.map_cons, hf]
    | succ i => simp only [List.set_cons_succ, List.map_cons, ih (by simpa using ha)]

@[simp] theorem documents_worked (index : Nat) : (r.worked index).documents = r.documents := by
  unfold worked
  split
  · rfl
  · rename_i v hv
    exact map_set_of_eq hv (docs_work v r.host)

@[simp] theorem documents_workedClosing (index : Nat) :
    (r.workedClosing index).documents = r.documents := by
  unfold workedClosing; split
  · rfl
  · split <;> rfl

theorem isOpen_iff {assembly : Uri} :
    r.isOpen assembly = true ↔ ∃ d ∈ r.documents, d.assembly = assembly := by
  simp only [isOpen, view?, documents, List.find?_isSome, List.mem_map, beq_iff_eq]
  constructor
  · rintro ⟨v, hv, hk⟩
    exact ⟨_, ⟨v, hv, rfl⟩, hk⟩
  · rintro ⟨_, ⟨v, hv, rfl⟩, hk⟩
    exact ⟨v, hv, hk⟩

theorem isOpen_of_mem {v : OpenView} (hv : v ∈ r.views) : r.isOpen v.assembly = true :=
  isOpen_iff.2 ⟨_, List.mem_map_of_mem hv, rfl⟩

theorem mem_of_view? {assembly : Uri} {v : OpenView} (h : r.view? assembly = some v) :
    v ∈ r.views ∧ v.assembly = assembly :=
  ⟨List.mem_of_find?_eq_some h, by simpa using List.find?_some h⟩

theorem documents_closeView (assembly : Uri) : (r.closeView assembly).documents =
    r.documents.filter (·.assembly != assembly) := by
  unfold closeView
  split
  · rename_i hnone
    refine (List.filter_eq_self.2 fun d hd => ?_).symm
    obtain ⟨v, hv, rfl⟩ := List.mem_map.1 hd
    simpa [OpenView.assembly] using List.find?_eq_none.1 hnone v hv
  · simp only [documents, List.filter_map]
    rfl

/-- Only opening and closing changes which views are open. -/
theorem documents_after (r : ViewRegistry) (event : RegistryEvent) :
    (r.after event).documents =
      match event with
      | .openView source => (r.opened source).documents
      | .closeView assembly => r.documents.filter (·.assembly != assembly)
      | .closeAll => []
      | _ => r.documents := by
  cases event with
  | openView => rfl
  | closeView assembly => exact documents_closeView assembly
  | selectionChanged | visibleEditorsChanged => exact documents_broadcast _
  | content assembly =>
    simp only [after, content?]
    cases sourceOfAssembly? assembly <;> rfl
  | cache event => exact documents_told _
  | work index => exact documents_worked index
  | workClosing index => exact documents_workedClosing index
  | closeAll | editorsChanged | fileChanged | settingsChanged | firstCompile => rfl

theorem Opened.mem_documents {source : Uri} {r' : ViewRegistry} (h : Opened r source r')
    {d : ViewDocuments} (hd : d ∈ r.documents) : d ∈ r'.documents := by
  cases h with
  | refused | already => exact hd
  | stored | fresh =>
    rw [documents, List.map_append]
    exact List.mem_append_left _ hd

theorem mem_documents_after {d : ViewDocuments} (hd : d ∈ r.documents)
    (hopen : ¬event.Closes d.assembly) : d ∈ (r.after event).documents := by
  rw [documents_after]
  cases event with
  | openView source => exact (opened_spec r source).mem_documents hd
  | closeView assembly =>
    refine List.mem_filter.2 ⟨hd, ?_⟩
    simpa using fun h => hopen (Eq.symm h)
  | closeAll => exact absurd trivial hopen
  | _ => exact hd

/-! ### The invariant -/

/-- The documents of the open views fit together with the cache. -/
structure Wired (r : ViewRegistry) : Prop where
  /-- The tasks of the cache are accounted for. -/
  accounted : r.cache.Accounted
  /-- The document of a view is that of its source. -/
  keys : ∀ d ∈ r.documents, assemblyUri d.primary = .ok d.assembly
  /-- No two views are open for one document. -/
  nodup : (r.documents.map ViewDocuments.assembly).Nodup
  /-- The source of an open view is tracked, or its first compilation is due. -/
  tracked : ∀ d ∈ r.documents,
    (∃ e, r.cache.entry? d.assembly = some e) ∨ d.primary ∈ r.opening

theorem wired_initial (settings : SyncSettings) (host : Host) (debounce : Nat) :
    (initial settings host debounce).Wired :=
  ⟨CompileCache.accounted_initial debounce, by simp [initial, documents], by
    simp [initial, documents], by simp [initial, documents]⟩

theorem Wired.key_of_view? (h : r.Wired) {assembly : Uri} {v : OpenView}
    (hv : r.view? assembly = some v) : assemblyUri v.source = .ok assembly := by
  obtain ⟨hmem, rfl⟩ := mem_of_view? hv
  exact h.keys _ (List.mem_map_of_mem hmem)

theorem Wired.dispose_ne (h : r.Wired) (ha : r.Allows event) {d : ViewDocuments}
    (hd : d ∈ (r.after event).documents) (hd' : d ∈ r.documents) {source : Uri}
    (hmem : .dispose source ∈ r.cacheEvents event) : assemblyUri source ≠ .ok d.assembly := by
  cases event with
  | closeView assembly =>
    rw [documents_after] at hd
    -- the view that is closed has another document, so its source has another entry
    have hne : d.assembly ≠ assembly := by simpa using (List.mem_filter.1 hd).2
    simp only [cacheEvents, List.mem_map, Option.mem_toList, CacheEvent.dispose.injEq] at hmem
    obtain ⟨v, hv, rfl⟩ := hmem
    intro heq
    have hsame : assembly = d.assembly := Except.ok.inj ((h.key_of_view? hv).symm.trans heq)
    exact hne hsame.symm
  | cache event =>
    rw [cacheEvents, List.mem_singleton] at hmem
    subst hmem
    obtain ⟨v, hv, rfl⟩ := List.mem_map.1 hd'
    exact ha v hv
  | _ => simp [cacheEvents] at hmem

theorem Opened.mem_opening {source : Uri} {r' : ViewRegistry} (h : Opened r source r')
    {s : Uri} (hs : s ∈ r.opening) : s ∈ r'.opening := by
  cases h with
  | fresh => exact List.mem_append_left _ hs
  | _ => exact hs

@[simp] theorem opening_told (news : Option UnitChanged) : (r.told news).opening = r.opening := by
  cases news with
  | none => rfl
  | some news => unfold told unitChanged; dsimp only; split <;> rfl

/-- Only opening views and asking for first compilations changes which of them are due. -/
theorem opening_after (r : ViewRegistry) (event : RegistryEvent) :
    (r.after event).opening =
      match event with
      | .openView source => (r.opened source).opening
      | .firstCompile source => r.opening.erase source
      | _ => r.opening := by
  cases event with
  | closeView assembly =>
    simp only [after, closeView]
    split <;> rfl
  | content assembly =>
    simp only [after, content?]
    cases sourceOfAssembly? assembly <;> rfl
  | cache event => exact opening_told _
  | work index =>
    simp only [after, worked]
    split <;> rfl
  | workClosing index =>
    simp only [after, workedClosing]
    split
    · rfl
    · split <;> rfl
  | _ => rfl

theorem mem_opening_after {source : Uri} (hs : source ∈ r.opening)
    (hne : event ≠ .firstCompile source) : source ∈ (r.after event).opening := by
  rw [opening_after]
  cases event with
  | openView => exact (opened_spec r _).mem_opening hs
  | firstCompile s =>
    refine (List.mem_erase_of_ne ?_).2 hs
    rintro rfl
    exact hne rfl
  | _ => exact hs

/-- A view that stays open is tracked, or its first compilation is due. -/
theorem Wired.tracked_after (h : r.Wired) (ha : r.Allows event) {d : ViewDocuments}
    (hd : d ∈ (r.after event).documents) (hd' : d ∈ r.documents) :
    (∃ e, CompileCache.entry? (r.after event).cache d.assembly = some e) ∨
      d.primary ∈ (r.after event).opening := by
  obtain he | hs := h.tracked d hd'
  · refine .inl ?_
    rw [cache_after]
    exact h.accounted.entry_afterAll (allowsAll_cacheEvents ha)
      (fun source hmem => h.dispose_ne ha hd hd' hmem) he
  · by_cases hfirst : event = .firstCompile d.primary
    · subst hfirst
      exact .inl (h.accounted.entry_get (h.keys d hd'))
    · exact .inr (mem_opening_after hs hfirst)

theorem find?_eq_entry? {c : CompileCache} {source key : Uri} (hk : assemblyUri source = .ok key) :
    c.find? source = c.entry? key := by
  rw [CompileCache.find?, hk]
  rfl

theorem Opened.wired {source : Uri} {r' : ViewRegistry} (h : Opened r source r') (hw : r.Wired) :
    r'.Wired := by
  -- what the cases with a new view have in common
  have hnew : ∀ {view : OpenView} {opening : List Uri} {assembly : Uri},
      assemblyUri source = .ok assembly → r.isOpen assembly = false →
      view.sync.docs = { primary := source, assembly } →
      ((∃ e, r.cache.entry? assembly = some e) ∨ source ∈ opening) → r.opening ⊆ opening →
      { r with views := r.views ++ [view], opening := opening }.Wired := by
    intro view opening assembly hkey hopen hdocs htracked hsub
    have hdocuments : { r with views := r.views ++ [view], opening := opening }.documents =
        r.documents ++ [{ primary := source, assembly }] := by
      simp only [documents, List.map_append, List.map_singleton, hdocs]
    constructor
    · exact hw.accounted
    · rw [hdocuments]
      simpa [or_imp, forall_and] using ⟨hw.keys, hkey⟩
    · rw [hdocuments, List.map_append, List.map_singleton]
      refine hw.nodup.append (List.nodup_singleton _) fun a ha ha' => ?_
      rw [List.mem_singleton] at ha'
      obtain ⟨d, hd, rfl⟩ := List.mem_map.1 ha
      have hisOpen : r.isOpen assembly = true := isOpen_iff.2 ⟨d, hd, ha'⟩
      simp [hopen] at hisOpen
    · rw [hdocuments]
      intro d hd
      obtain hd | hd := List.mem_append.1 hd
      · exact (hw.tracked d hd).imp_right fun hs => hsub hs
      · rw [List.mem_singleton] at hd
        subst hd
        exact htracked
  cases h with
  | refused | already => exact hw
  | stored hkey hopen hstored =>
    refine hnew hkey hopen rfl (.inl ?_) fun _ hs => hs
    rw [CompileCache.stored?, find?_eq_entry? hkey, Option.bind_eq_some_iff] at hstored
    exact hstored.imp fun _ he => he.1
  | fresh hkey hopen =>
    exact hnew hkey hopen rfl (.inr (by simp)) fun _ hs => List.mem_append_left _ hs

theorem documents_sublist (hne : ∀ source, event ≠ .openView source) :
    (r.after event).documents.Sublist r.documents := by
  rw [documents_after]
  cases event with
  | openView source => exact absurd rfl (hne source)
  | closeView => exact List.filter_sublist
  | closeAll => exact List.nil_sublist _
  | _ => exact .refl _

/-- **Every event keeps the invariant.** -/
theorem Wired.after (h : r.Wired) (ha : r.Allows event) : (r.after event).Wired := by
  by_cases hopen : ∃ source, event = .openView source
  · obtain ⟨source, rfl⟩ := hopen
    exact (opened_spec r source).wired h
  · have hsub := documents_sublist (r := r) fun source heq => hopen ⟨source, heq⟩
    constructor
    · rw [cache_after]
      exact h.accounted.afterAll (allowsAll_cacheEvents ha)
    · exact fun d hd => h.keys d (hsub.subset hd)
    · exact h.nodup.sublist (hsub.map _)
    · exact fun d hd => h.tracked_after ha hd (hsub.subset hd)

/-- **Every run keeps the invariant.** -/
theorem Wired.afterAll {events : List RegistryEvent} (h : r.Wired) (ha : r.AllowsAll events) :
    (r.afterAll events).Wired :=
  run_induction (fun _ _ hw ha => hw.after ha) h ha

/-! ### Runs that can be checked -/

instance (source : Uri) (views : List OpenView) :
    Decidable (∀ v ∈ views, assemblyUri source ≠ .ok v.assembly) :=
  decidable_of_iff (∀ v ∈ views, (assemblyUri source).toOption ≠ some v.assembly) <| by
    cases assemblyUri source <;> simp [Except.toOption]

instance decidableAllows (r : ViewRegistry) :
    (event : RegistryEvent) → Decidable (r.Allows event)
  | .cache (.dispose source) =>
    inferInstanceAs (Decidable (∀ v ∈ r.views, assemblyUri source ≠ .ok v.assembly))
  | .cache (.elapse timer) => inferInstanceAs (Decidable (timer ∈ r.cache.timers))
  | .cache (.finish task _) => inferInstanceAs (Decidable (task ∈ r.cache.running))
  | .firstCompile source => inferInstanceAs (Decidable (source ∈ r.opening))
  | .work index => inferInstanceAs (Decidable (∃ v ∈ r.views[index]?, v.queue ≠ []))
  | .workClosing index => inferInstanceAs (Decidable (index < r.closing.length))
  | .cache (.get _) | .cache (.invalidate _ _) | .cache (.recompile _) | .openView _
  | .closeView _ | .closeAll | .selectionChanged _ | .visibleEditorsChanged
  | .editorsChanged _ _ | .fileChanged _ _ | .settingsChanged _ | .content _ => .isTrue trivial

instance decidableAllowsAll (r : ViewRegistry) :
    (events : List RegistryEvent) → Decidable (r.AllowsAll events)
  | [] => .isTrue trivial
  | event :: events =>
    have := decidableAllowsAll (r.after event) events
    inferInstanceAs (Decidable (r.Allows event ∧ (r.after event).AllowsAll events))

end ViewRegistry

end AsmExplorer
