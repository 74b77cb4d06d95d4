import AsmExplorer.Proofs.View.Reactions

/-!
# Every request of a view is justified

What a view may ask of the host depends on its state at that moment (`Synced.Justifies`): it puts
decorations only while it is active, selected and unused lines only with a listing and the sign of
loading only as long as there is no unit, and it scrolls and opens documents only on account of a
selection that somebody made.  Removing decorations is always allowed.

A reaction changes the state while it makes its requests, so each request is recorded with the state
in which it is made (`Synced.made`).  `Synced.Makes` says that all the requests between two states
of a view have a property in the states that are recorded with them, and that the host was asked for
nothing else.  `Synced.every_call_justified` is the main result: in every run, whatever the host
does, every request is justified by the state in which it is made.
-/

namespace AsmExplorer

/-- The view and the host as they were when a request was made. -/
def ViewRequest.state (r : ViewRequest) : Synced :=
  { sync := r.view, host := r.host }

namespace Synced

/-- A request is justified in a state of the view, while it reacts to a command. -/
def Justifies (s : Synced) (command : ViewCommand) : HostCall → Prop
  | .set _ .selected lines => lines ≠ [] → s.sync.phase = .active ∧ s.compiled?.isSome
  | .set _ .unused lines => lines ≠ [] →
    s.sync.phase = .active ∧ s.compiled?.isSome ∧ s.sync.settings.dimUnusedSourceLines = true
  | .set _ .loading lines => lines ≠ [] →
    lines = [0] ∧ s.sync.phase = .active ∧ s.sync.unit = none
  | .reveal _ _ _ | .show _ _ _ =>
    s.sync.phase = .active ∧ s.compiled?.isSome ∧
      ∃ change, command = .selection change ∧ change.kind.isSome
  | .error _ => False

/-- Some requests, the latest first, are all that a view made between two states. -/
structure Requests (s t : Synced) (made : List ViewRequest) : Prop where
  /-- The view recorded them. -/
  made_eq : t.made = made ++ s.made
  /-- The host was asked for nothing else. -/
  calls_eq : t.host.calls = made.map ViewRequest.call ++ s.host.calls

/-- Every request that a view made on the way from one state to another has a property in the state
in which it was made. -/
def Makes (P : Synced → HostCall → Prop) (s t : Synced) : Prop :=
  ∃ made, s.Requests t made ∧ ∀ r ∈ made, P r.state r.call

/-- Whether a request has the property does not depend on what is in place, nor on what was asked
for before. -/
def DependsOnRest (P : Synced → HostCall → Prop) : Prop :=
  ∀ ⦃s t : Synced⦄ ⦃call : HostCall⦄, t.rest = s.rest → (P t call ↔ P s call)

variable {command : ViewCommand} {s t u : Synced} {v : VisibleSet} {e : Editor} {call : HostCall}

/-! ### Requests that have a property -/

namespace Makes

variable {P : Synced → HostCall → Prop}

theorem refl : s.Makes P s :=
  ⟨[], ⟨rfl, rfl⟩, by simp⟩

theorem trans (h : s.Makes P t) (h' : t.Makes P u) : s.Makes P u := by
  obtain ⟨made, hmade, hhas⟩ := h
  obtain ⟨more, hmore, hhas'⟩ := h'
  refine ⟨more ++ made, ⟨?_, ?_⟩, fun r hr => ?_⟩
  · rw [hmore.made_eq, hmade.made_eq, List.append_assoc]
  · rw [hmore.calls_eq, hmade.calls_eq, List.map_append, List.append_assoc]
  · exact (List.mem_append.1 hr).elim (hhas' r) (hhas r)

theorem of_silent (hmade : t.made = s.made) (hcalls : t.host.calls = s.host.calls) :
    s.Makes P t :=
  ⟨[], ⟨hmade, hcalls⟩, by simp⟩

theorem of_record (hmade : t.made = (s.record call).made)
    (hcalls : t.host.calls = call :: s.host.calls) (h : P { s with made := [] } call) :
    s.Makes P t :=
  ⟨[⟨s.sync, s.host, call⟩], ⟨hmade, hcalls⟩, fun r hr => by rwa [List.mem_singleton.1 hr]⟩

theorem request (hP : DependsOnRest P) (h : P s call) : s.Makes P (s.request call) :=
  .of_record rfl rfl ((hP (s := s) (t := { s with made := [] }) rfl).2 h)

theorem apply (hP : DependsOnRest P) {kind : DecorationKind} {lines : List Nat}
    (h : P s (.set e.id kind lines)) : s.Makes P (s.apply e kind lines) := by
  unfold Synced.apply
  split
  · exact .refl
  · exact .of_record rfl rfl ((hP (s := s) (t := { s with made := [] }) rfl).2 h)

theorem putAll (hP : DependsOnRest P) {puts : List Put}
    (h : ∀ p ∈ puts, P s (.set p.editor.id p.kind p.lines)) : s.Makes P (s.putAll puts) := by
  induction puts generalizing s with
  | nil => exact .refl
  | cons p puts ih =>
    refine (apply hP (h p List.mem_cons_self)).trans (ih fun q hq => ?_)
    exact (hP (rest_apply _ _)).2 (h q (List.mem_cons_of_mem _ hq))

theorem revealAll (hP : DependsOnRest P) {reveals : List (Editor × Nat)}
    (h : ∀ r ∈ reveals, P s (.reveal r.1.id r.2 .centerIfOutside)) :
    s.Makes P (s.revealAll reveals) := by
  induction reveals generalizing s with
  | nil => exact .refl
  | cons r reveals ih =>
    have hrest : (s.reveal r.1 r.2).rest = s.rest := rfl
    refine (request hP (h r List.mem_cons_self)).trans (ih fun q hq => ?_)
    exact (hP hrest).2 (h q (List.mem_cons_of_mem _ hq))

end Makes

/-- Every request that a view made in the reaction to a command is justified in the state in which
it was made. -/
def MakesJustly (command : ViewCommand) (s t : Synced) : Prop :=
  s.Makes (Justifies · command ·) t

namespace MakesJustly

theorem refl : s.MakesJustly command s :=
  Makes.refl (P := (Justifies · command ·))

theorem trans (h : s.MakesJustly command t) (h' : t.MakesJustly command u) :
    s.MakesJustly command u :=
  Makes.trans (P := (Justifies · command ·)) h h'

theorem of_silent (hmade : t.made = s.made) (hcalls : t.host.calls = s.host.calls) :
    s.MakesJustly command t :=
  Makes.of_silent (P := (Justifies · command ·)) hmade hcalls

end MakesJustly

/-! ### Putting and scrolling -/

theorem justifies_congr (h : t.rest = s.rest) :
    t.Justifies command call ↔ s.Justifies command call := by
  have hphase : t.sync.phase = s.sync.phase := congrArg (·.sync.phase) h
  have hunit : t.sync.unit = s.sync.unit := congrArg (·.sync.unit) h
  have hsettings : t.sync.settings = s.sync.settings := congrArg (·.sync.settings) h
  have hcompiled : t.compiled? = s.compiled? := congrArg (·.bind UnitState.unit?) hunit
  cases call with
  | set id kind lines => cases kind <;> simp only [Justifies, hphase, hunit, hsettings, hcompiled]
  | reveal id line how => simp only [Justifies, hphase, hcompiled]
  | «show» document column preserveFocus => simp only [Justifies, hphase, hcompiled]
  | error message => exact Iff.rfl

theorem makesJustly_putAll {puts : List Put}
    (h : ∀ p ∈ puts, s.Justifies command (.set p.editor.id p.kind p.lines)) :
    s.MakesJustly command (s.putAll puts) :=
  Makes.putAll (P := (Justifies · command ·)) (fun _ _ _ => justifies_congr) h

theorem makesJustly_revealAll {reveals : List (Editor × Nat)}
    (h : ∀ r ∈ reveals, s.Justifies command (.reveal r.1.id r.2 .centerIfOutside)) :
    s.MakesJustly command (s.revealAll reveals) :=
  Makes.revealAll (P := (Justifies · command ·)) (fun _ _ _ => justifies_congr) h

theorem makesJustly_blanks : s.MakesJustly command (s.putAll v.blanks) := by
  refine makesJustly_putAll fun p hp => ?_
  obtain ⟨-, hlines⟩ := VisibleSet.mem_blanks_iff.1 hp
  cases hkind : p.kind <;> simp [Justifies, hlines]

/-- An active view may put all its decorations in place. -/
theorem justifies_of_mem_decorations {p : Put} {last : Option Selection}
    (hactive : s.sync.phase = .active)
    (hp : p ∈ v.decorations s.sync.settings last s.sync.unit) :
    s.Justifies command (.set p.editor.id p.kind p.lines) := by
  obtain ⟨hunit, -, hkind, hlines⟩ | ⟨unit, hunit, hput⟩ := VisibleSet.of_mem_decorations hp
  · rw [hkind, hlines]
    exact fun _ => ⟨rfl, hactive, hunit⟩
  · have hcompiled : s.compiled?.isSome := by simp [compiled?, hunit, UnitState.unit?]
    obtain ⟨hdim, -, hkind, -⟩ | ⟨-, -, hkind⟩ := hput
    · rw [hkind]
      exact fun _ => ⟨hactive, hcompiled, hdim⟩
    · rw [hkind]
      exact fun _ => ⟨hactive, hcompiled⟩

/-! ### The reactions -/

theorem makesJustly_refresh : s.MakesJustly command s.refresh := by
  have hphase : s.MakesJustly command (s.updatePhase s.visible) := .of_silent rfl rfl
  rw [refresh_eq]
  refine hphase.trans (makesJustly_blanks.trans (makesJustly_putAll fun p hp => ?_))
  rw [justifies_congr (rest_putAll _)]
  split at hp
  · exact justifies_of_mem_decorations (phase_updatePhase_eq_active_iff.2 ‹_›) hp
  · cases hp

theorem makesJustly_onUnitChanged (state : UnitState) :
    s.MakesJustly command (s.onUnitChanged state) := by
  have hunit : (s.putAll s.visible.blanks).MakesJustly command
      { s.putAll s.visible.blanks with sync.unit := some state } := .of_silent rfl rfl
  rw [onUnitChanged_eq]
  exact makesJustly_blanks.trans (hunit.trans makesJustly_refresh)

theorem makesJustly_onVisibleEditorsChanged :
    s.MakesJustly command s.onVisibleEditorsChanged := by
  have hphase : s.MakesJustly command
      ({ s with sync.ledger := {} : Synced }.updatePhase s.visible) := .of_silent rfl rfl
  rw [onVisibleEditorsChanged_eq]
  refine hphase.trans ?_
  by_cases hactive : s.visible.isActive = true
  · refine makesJustly_putAll fun p hp => ?_
    have hmem := mem_decorations_of_mem_updates hactive hp
    exact justifies_of_mem_decorations (phase_updatePhase_eq_active_iff.2 hactive) hmem
  · rw [updates, if_neg hactive]
    exact makesJustly_blanks

theorem makesJustly_dispose : s.MakesJustly command s.dispose := by
  have hphase : (s.putAll s.visible.blanks).MakesJustly command
      { s.putAll s.visible.blanks with sync.phase := .inactive } := .of_silent rfl rfl
  rw [dispose_eq]
  exact makesJustly_blanks.trans hphase

/-- What a selection that the view attends to justifies, as long as phase and unit are the same. -/
theorem Attends.justifies {change : SelectionChange} {unit : CompiledUnit}
    (h : s.Attends change unit) (hphase : t.sync.phase = s.sync.phase)
    (hunit : t.sync.unit = s.sync.unit) :
    (∀ id lines, t.Justifies (.selection change) (.set id .selected lines)) ∧
      (∀ id line how, t.Justifies (.selection change) (.reveal id line how)) ∧
      ∀ document column focus, t.Justifies (.selection change) (.show document column focus) := by
  have hactive : t.sync.phase = .active := hphase.trans h.active
  have hcompiled : t.compiled?.isSome := by
    rw [compiled?, hunit]
    exact Option.isSome_iff_exists.2 ⟨unit, h.compiled⟩
  exact ⟨fun _ _ _ => ⟨hactive, hcompiled⟩,
    fun _ _ _ => ⟨hactive, hcompiled, change, rfl, h.deliberate⟩,
    fun _ _ _ => ⟨hactive, hcompiled, change, rfl, h.deliberate⟩⟩

/-- On account of a selection, selected lines may be put and scrolled to. -/
theorem Attends.makesJustly {change : SelectionChange} {unit : CompiledUnit}
    (h : s.Attends change unit) (hphase : t.sync.phase = s.sync.phase)
    (hunit : t.sync.unit = s.sync.unit) {puts : List Put}
    (hkind : ∀ p ∈ puts, p.kind = .selected) (reveals : List (Editor × Nat)) :
    t.MakesJustly (.selection change) ((t.putAll puts).revealAll reveals) := by
  have hput : t.MakesJustly (.selection change) (t.putAll puts) :=
    makesJustly_putAll fun p hp => by rw [hkind p hp]; exact (h.justifies hphase hunit).1 _ _
  refine hput.trans (makesJustly_revealAll fun r _ => ?_)
  exact (h.justifies ((phase_putAll _).trans hphase) ((unit_putAll _).trans hunit)).2.1 _ _ _

theorem Attends.makesJustly_highlightTarget {change : SelectionChange} {unit : CompiledUnit}
    (h : s.Attends change unit) (hphase : t.sync.phase = s.sync.phase)
    (hunit : t.sync.unit = s.sync.unit) (target : SourceLine) :
    t.MakesJustly (.selection change) (t.highlightTarget e target true) := by
  rw [highlightTarget_eq]
  refine h.makesJustly hphase hunit (fun p hp => ?_) _
  rw [(VisibleSet.mem_targetPuts_iff.1 hp).2]

theorem makesJustly_remember (last : Option Selection) :
    s.MakesJustly command { s with sync.last := last } :=
  .of_silent rfl rfl

theorem Attends.makesJustly_lineSelected {change : SelectionChange} {unit : CompiledUnit}
    (h : s.Attends change unit) :
    s.MakesJustly (.selection change) (s.lineSelected unit change) :=
  (makesJustly_remember _).trans
    (h.makesJustly (t := { s with sync.last := some (.assembly change.line) }) rfl rfl
      (fun _ hp => (VisibleSet.of_mem_assemblyPuts hp).1) [])

theorem Attends.makesJustly_asked {change : SelectionChange} {unit : CompiledUnit}
    (h : s.Attends change unit) (opener : Opener) (document : Uri) :
    s.MakesJustly (.selection change)
      ((s.lineSelected unit change).asked opener s.visible document).1 := by
  have hphase : (s.lineSelected unit change).sync.phase = s.sync.phase := phase_putAll _
  have hunit : (s.lineSelected unit change).sync.unit = s.sync.unit := unit_putAll _
  refine h.makesJustly_lineSelected.trans
    (Makes.of_record (P := (Justifies · (.selection change) ·)) rfl rfl ?_)
  exact (h.justifies (t := { s.lineSelected unit change with made := [] }) hphase hunit).2.2 _ _ _

theorem makesJustly_onSelectionChangedBy (opener : Opener) (change : SelectionChange) :
    s.MakesJustly (.selection change) (s.onSelectionChangedBy opener change) := by
  have hselects := selects (s := s) opener change
  generalize s.onSelectionChangedBy opener change = t at hselects
  cases hselects with
  | ignored _ => exact .refl
  | source h _ =>
    rw [selectSource_eq]
    refine (makesJustly_remember _).trans (h.makesJustly ?_ ?_ (fun p hp => ?_) _)
    · rfl
    · rfl
    · exact (VisibleSet.of_mem_sourcePuts hp).1
  | unmapped h _ _ => exact h.makesJustly_lineSelected
  | mapped h _ _ _ =>
    refine h.makesJustly_lineSelected.trans (h.makesJustly_highlightTarget ?_ ?_ _)
    · exact phase_putAll _
    · exact unit_putAll _
  | refused h _ _ _ _ => exact h.makesJustly_asked opener _
  | opened h _ _ _ _ =>
    refine (h.makesJustly_asked opener _).trans (h.makesJustly_highlightTarget ?_ ?_ _)
    · exact phase_putAll _
    · exact unit_putAll _

theorem makesJustly_handleBy (opener : Opener) (command : ViewCommand) :
    s.MakesJustly command (s.handleBy opener command) := by
  cases command with
  | refresh => exact makesJustly_refresh
  | unit state => exact makesJustly_onUnitChanged state
  | selection change => exact makesJustly_onSelectionChangedBy opener change
  | visibleEditorsChanged => exact makesJustly_onVisibleEditorsChanged
  | close => exact makesJustly_dispose

theorem onSelectionChangedBy_eq_self (opener : Opener) {change : SelectionChange}
    (h : change.kind = none ∨ s.sync.phase = .inactive ∨ s.compiled? = none) :
    s.onSelectionChangedBy opener change = s := by
  unfold onSelectionChangedBy
  split
  · rename_i hkind hactive hcompiled
    simp [hkind, hactive, hcompiled] at h
  · rfl

/-! ### Runs -/

/-- What happens to a view: it is told something, and the host answers in some way if it is asked
for a document; or the user changes the host in any way. -/
inductive Event where
  /-- The view carries out a command. -/
  | command (command : ViewCommand) (opener : Opener)
  /-- The host is another. -/
  | host (host : Host)

/-- A view that nothing has happened to. -/
def initial (docs : ViewDocuments) (settings : SyncSettings) (host : Host) : Synced :=
  { sync := { docs, settings }, host }

/-- The view after a run. -/
def run (s : Synced) : List Event → Synced
  | [] => s
  | .command command opener :: events => (s.handleBy opener command).run events
  | .host host :: events => { s with host }.run events

/-- **Every request of a view is justified.**  Take any run of a view, with any visible editors and
whatever the host does when it is asked for a document, and any command that the view carries out
then.  The view records the requests that it makes, each with the state in which it makes it; the
host is asked for nothing else; and each request is justified in its state:

* selected and unused lines are put on an editor only while the view is active and has a listing,
  unused lines only if they are to be dimmed, and the sign of loading, on the first line, only while
  the view is active and has no unit;
* scrolling, and opening a document, happens only on account of a selection that somebody made,
  while the view is active and has a listing;
* no errors are shown.

A selection that nobody made, and any selection while the view is inactive or has no listing,
changes nothing at all. -/
theorem every_call_justified (docs : ViewDocuments) (settings : SyncSettings) (host : Host)
    (events : List Event) (command : ViewCommand) (opener : Opener) :
    let s := (initial docs settings host).run events
    let t := s.handleBy opener command
    (∃ made, t.made = made ++ s.made ∧ t.host.calls = made.map ViewRequest.call ++ s.host.calls ∧
      ∀ r ∈ made, r.state.Justifies command r.call) ∧
    ∀ change, command = .selection change →
      change.kind = none ∨ s.sync.phase = .inactive ∨ s.compiled? = none → t = s := by
  intro s t
  obtain ⟨made, hmade, hjust⟩ : s.MakesJustly command t := makesJustly_handleBy opener command
  refine ⟨⟨made, hmade.made_eq, hmade.calls_eq, hjust⟩, ?_⟩
  rintro change rfl hnone
  exact onSelectionChangedBy_eq_self opener hnone

end Synced

end AsmExplorer
