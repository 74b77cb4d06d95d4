import AsmExplorer.Proofs.View.Repetition

/-!
# A view without a ledger

The ledger spares requests to the host.  A view without one would ask for every decoration
(`Synced.issue`), and otherwise do the same: the reactions of a view are written here for any way of
putting decorations (`Synced.handleVia`), and those of the model are the case in which the ledger is
looked at first (`Synced.handleVia_apply`, and for runs `Scene.afterAllVia_apply`).

Both views go through the same run side by side (`Scene.Twins`).  As long as no two visible editors
stand in the same place, selections are made in visible editors, and every change of the visible
editors is told before the next command, the ledger is up to date when a command comes, so both put
the same on the screen (`Scene.Twins.after`).  The ledger is a sound optimisation
(`Scene.ledger_sound`).
-/

namespace AsmExplorer

/-- A way of putting decorations on an editor. -/
abbrev Putter := Editor → DecorationKind → List Nat → Synced → Synced

/-- What a host opens does not depend on the requests before. -/
theorem Host.showDocument_withCalls (h : Host) (document : Uri) (column : Option UInt8)
    (preserveFocus : Bool) (calls : List HostCall) :
    { h with calls }.showDocument document column preserveFocus =
      ({ (h.showDocument document column preserveFocus).1 with
          calls := .show document column preserveFocus :: calls },
        (h.showDocument document column preserveFocus).2) := by
  have hvisible : ∀ calls, ({ h with calls } : Host).visibleEditors = h.visibleEditors :=
    fun _ => rfl
  simp only [showDocument, call, hvisible]
  by_cases hrefused : h.refused.contains document.render = true
  · simp only [hrefused, if_true]
  · simp only [hrefused]
    cases h.visibleEditors.find? (·.document == document) <;> rfl

namespace Synced

/-- Asks for decorations, whether they are in place or not. -/
def issue : Putter :=
  fun e kind lines s => s.request (.set e.id kind lines)

/-! ### The reactions, for any way of putting decorations -/

/-- Puts decorations one after the other. -/
def putAllVia (put : Putter) (puts : List Put) (s : Synced) : Synced :=
  puts.foldl (fun s p => put p.editor p.kind p.lines s) s

/-- Removes all decorations and puts those of the present unit in place. -/
def refreshVia (put : Putter) (s : Synced) : Synced :=
  ((s.updatePhase s.visible).putAllVia put s.visible.blanks).putAllVia put
    (if s.visible.isActive then
      s.visible.decorations s.sync.settings s.sync.last s.sync.unit else [])

/-- Takes in the outcome of a compile. -/
def onUnitChangedVia (put : Putter) (state : UnitState) (s : Synced) : Synced :=
  { s.putAllVia put s.visible.blanks with sync.unit := some state : Synced }.refreshVia put

/-- Takes in a change of the visible editors. -/
def onVisibleEditorsChangedVia (put : Putter) (s : Synced) : Synced :=
  ({ s with sync.ledger := {} : Synced }.updatePhase s.visible).putAllVia put s.updates

/-- Removes all decorations for good. -/
def disposeVia (put : Putter) (s : Synced) : Synced :=
  { s.putAllVia put s.visible.blanks with sync.phase := .inactive }

/-- Shows a selection in a source. -/
def sourceSelectedVia (put : Putter) (unit : CompiledUnit) (change : SelectionChange)
    (s : Synced) : Synced :=
  ({ s with sync.last := some (.source change.editor.document change.line) : Synced }.putAllVia put
    (s.visible.sourcePuts unit change.editor change.line)).revealAll
      (sourceReveals unit s.visible change.editor change.line)

/-- Shows a selection in the listing. -/
def lineSelectedVia (put : Putter) (unit : CompiledUnit) (change : SelectionChange)
    (s : Synced) : Synced :=
  { s with sync.last := some (.assembly change.line) : Synced }.putAllVia put
    (s.visible.assemblyPuts unit change.editor change.line)

/-- Shows the source line that a selection in the listing came from, in an editor. -/
def highlightTargetVia (put : Putter) (e : Editor) (target : SourceLine) (s : Synced) : Synced :=
  (s.putAllVia put (VisibleSet.targetPuts e target)).revealAll
    (if target.line < e.lineCount then [(e, target.line)] else [])

/-- Shows the source line that a selection in the listing came from, in a visible editor or in one
that is opened. -/
def showTargetVia (put : Putter) (v : VisibleSet) (target : SourceLine) (s : Synced) : Synced :=
  match s.sourceEditor v target.file with
  | (s, some e) => s.highlightTargetVia put e target
  | (s, none) => s

/-- Takes in a selection. -/
def onSelectionChangedVia (put : Putter) (change : SelectionChange) (s : Synced) : Synced :=
  match change.kind, s.sync.phase, s.compiled? with
  | some _, .active, some unit =>
    if unit.references change.editor.document then s.sourceSelectedVia put unit change
    else if change.editor.document = s.sync.docs.assembly then
      match unit.definitionAt? change.line with
      | none => s.lineSelectedVia put unit change
      | some target => (s.lineSelectedVia put unit change).showTargetVia put s.visible target
    else s
  | _, _, _ => s

/-- Carries out a command. -/
def handleVia (put : Putter) (s : Synced) : ViewCommand → Synced
  | .refresh => s.refreshVia put
  | .unit state => s.onUnitChangedVia put state
  | .selection change => s.onSelectionChangedVia put change
  | .visibleEditorsChanged => s.onVisibleEditorsChangedVia put
  | .close => s.disposeVia put

variable {base : Screen} {s t : Synced} {puts : List Put} {reveals : List (Editor × Nat)}
  {change : SelectionChange} {unit : CompiledUnit}

@[simp] theorem putAllVia_apply : s.putAllVia apply puts = s.putAll puts :=
  rfl

theorem highlightTargetVia_apply {e : Editor} {target : SourceLine} :
    s.highlightTargetVia apply e target = s.highlightTarget e target true := by
  rw [highlightTarget_eq]
  simp [highlightTargetVia]

theorem onSelectionChangedVia_apply :
    s.onSelectionChangedVia apply change = s.onSelectionChanged change := by
  have hsource : ∀ unit, s.sourceSelectedVia apply unit change =
      { s with sync.last := some (.source change.editor.document change.line) : Synced
        }.selectSource unit s.visible change.editor change.line true := by
    intro unit
    rw [selectSource_eq]
    rfl
  have hline : ∀ unit, s.lineSelectedVia apply unit change =
      { s with sync.last := some (.assembly change.line) : Synced
        }.highlightAssembly unit s.visible change.editor change.line := by
    intro unit
    rw [highlightAssembly_eq]
    rfl
  unfold onSelectionChangedVia showTargetVia
  simp only [hsource, hline, highlightTargetVia_apply]
  rfl

/-- **With a ledger these are the reactions of the model.** -/
theorem handleVia_apply (command : ViewCommand) : s.handleVia apply command = s.handle command := by
  cases command with
  | refresh => exact refresh_eq.symm
  | unit state =>
    rw [handle, onUnitChanged_eq, refresh_eq]
    rfl
  | selection change => exact onSelectionChangedVia_apply
  | visibleEditorsChanged => exact onVisibleEditorsChanged_eq.symm
  | close => exact dispose_eq.symm

/-! ### Side by side -/

/-- Two views with the same host, documents, unit, phase and last selection, and the same screen. -/
structure Twins (base : Screen) (s t : Synced) : Prop where
  /-- They differ in their ledgers and in the requests made at most. -/
  rest : t.rest = s.rest
  /-- They have the same screen. -/
  screen : t.screen base = s.screen base

/-- Asking for decorations puts them on the screen and does nothing else. -/
theorem putAllVia_issue : (t.putAllVia issue puts).rest = t.rest ∧
    (t.putAllVia issue puts).screen base = (t.screen base).putAll puts := by
  induction puts generalizing t with
  | nil => exact ⟨rfl, rfl⟩
  | cons p puts ih => exact ih (t := t.issue p.editor p.kind p.lines)

namespace Twins

variable {e : Editor} {target : SourceLine}

theorem visible_eq (h : Twins base s t) : t.visible = s.visible :=
  visible_eq_of_rest h.rest

theorem docs_eq (h : Twins base s t) : t.sync.docs = s.sync.docs :=
  congrArg (·.sync.docs) h.rest

theorem settings_eq (h : Twins base s t) : t.sync.settings = s.sync.settings :=
  congrArg (·.sync.settings) h.rest

theorem unit_eq (h : Twins base s t) : t.sync.unit = s.sync.unit :=
  congrArg (·.sync.unit) h.rest

theorem phase_eq (h : Twins base s t) : t.sync.phase = s.sync.phase :=
  congrArg (·.sync.phase) h.rest

theorem last_eq (h : Twins base s t) : t.sync.last = s.sync.last :=
  congrArg (·.sync.last) h.rest

theorem compiled?_eq (h : Twins base s t) : t.compiled? = s.compiled? := by
  rw [Synced.compiled?, Synced.compiled?, h.unit_eq]

theorem sync (h : Twins base s t) (f : Synchronizer → Synchronizer)
    (hledger : ∀ sync, { f sync with ledger := {} } = f { sync with ledger := {} }) :
    Twins base { s with sync := f s.sync } { t with sync := f t.sync } := by
  refine ⟨?_, h.screen⟩
  have hsync : ({ t.sync with ledger := {} } : Synchronizer) = { s.sync with ledger := {} } :=
    congrArg Synced.sync h.rest
  have hhost : ({ t.host with calls := [] } : Host) = { s.host with calls := [] } :=
    congrArg Synced.host h.rest
  rw [Synced.rest, Synced.rest, hledger, hledger, hsync, hhost]

theorem revealAll (h : Twins base s t) :
    Twins base (s.revealAll reveals) (t.revealAll reveals) where
  rest := by rw [rest_revealAll, rest_revealAll, h.rest]
  screen := by rw [screen_revealAll, screen_revealAll, h.screen]

/-- **What is put with an up-to-date ledger is what is put without one.** -/
theorem putAll (h : Twins base s t) (hcurrent : s.Current base) (hd : s.host.Separate)
    (hshows : ∀ p ∈ puts, s.host.Shows p.editor) :
    Twins base (s.putAllVia apply puts) (t.putAllVia issue puts) := by
  obtain ⟨hrest, hscreen⟩ : (t.putAllVia issue puts).rest = t.rest ∧
      (t.putAllVia issue puts).screen base = (t.screen base).putAll puts := putAllVia_issue
  refine ⟨?_, ?_⟩
  · rw [hrest, putAllVia_apply, rest_putAll, h.rest]
  · rw [hscreen, putAllVia_apply, (hcurrent.putAll hd hshows).1, h.screen]

theorem putVisible (h : Twins base s t) (hcurrent : s.Current base) (hd : s.host.Separate)
    (hputs : ∀ p ∈ puts, p.editor ∈ s.visible.editors) :
    Twins base (s.putAllVia apply puts) (t.putAllVia issue puts) :=
  h.putAll hcurrent hd fun p hp => shows_of_mem_editors (hputs p hp)

/-! ### The reactions keep twins -/

theorem blanks (h : Twins base s t) (hcurrent : s.Current base) (hd : s.host.Separate) :
    Twins base (s.putAllVia apply s.visible.blanks) (t.putAllVia issue t.visible.blanks) := by
  rw [h.visible_eq]
  exact h.putVisible hcurrent hd fun _ hp => (VisibleSet.mem_blanks_iff.1 hp).1

theorem updatePhase (h : Twins base s t) (v : VisibleSet) :
    Twins base (s.updatePhase v) (t.updatePhase v) :=
  h.sync (fun sync => { sync with phase := if v.isActive then .active else .inactive }) fun _ => rfl

theorem refresh (h : Twins base s t) (hcurrent : s.Current base) (hd : s.host.Separate) :
    Twins base (s.refreshVia apply) (t.refreshVia issue) := by
  have hphase : (s.updatePhase s.visible).Current base := hcurrent.of_host rfl rfl rfl
  have hcleared := (h.updatePhase s.visible).blanks hphase hd
  have hcurrent' : ((s.updatePhase s.visible).putAll s.visible.blanks).Current base :=
    hphase.blanks hd
  unfold refreshVia
  rw [h.visible_eq, h.settings_eq, h.last_eq, h.unit_eq]
  refine putVisible ?_ hcurrent' (separate_putAll.2 hd) fun p hp => ?_
  · have hvisible : (t.updatePhase s.visible).visible = s.visible := h.visible_eq
    rwa [hvisible] at hcleared
  · rw [putAllVia_apply, visible_putAll]
    split at hp
    · exact VisibleSet.mem_editors_of_mem_decorations hp
    · cases hp

theorem onUnitChanged (h : Twins base s t) (hcurrent : s.Current base) (hd : s.host.Separate)
    (state : UnitState) :
    Twins base (s.onUnitChangedVia apply state) (t.onUnitChangedVia issue state) := by
  have hcurrent' : { s.putAll s.visible.blanks with sync.unit := some state : Synced }.Current
      base := (hcurrent.blanks hd).of_host rfl rfl rfl
  have hcleared := (h.blanks hcurrent hd).sync (fun sync => { sync with unit := some state })
    fun _ => rfl
  exact hcleared.refresh hcurrent' (separate_putAll.2 hd)

theorem dispose (h : Twins base s t) (hcurrent : s.Current base) (hd : s.host.Separate) :
    Twins base (s.disposeVia apply) (t.disposeVia issue) :=
  (h.blanks hcurrent hd).sync (fun sync => { sync with phase := .inactive }) fun _ => rfl

theorem updates_eq (h : Twins base s t) : t.updates = s.updates := by
  rw [Synced.updates, Synced.updates, h.visible_eq, h.phase_eq, h.settings_eq, h.last_eq, h.unit_eq]

/-- The ledger is emptied when the view is told of a change, so what was in it does not matter. -/
theorem onVisibleEditorsChanged (h : Twins base s t) (hd : s.host.Separate) :
    Twins base (s.onVisibleEditorsChangedVia apply) (t.onVisibleEditorsChangedVia issue) := by
  have hemptied := (h.sync (fun sync => { sync with ledger := {} }) fun _ => rfl).updatePhase
    s.visible
  have hempty : ({ s with sync.ledger := {} : Synced }.updatePhase s.visible).Current base :=
    .of_empty rfl
  unfold onVisibleEditorsChangedVia
  rw [h.visible_eq, h.updates_eq]
  exact hemptied.putVisible hempty hd fun p hp => mem_editors_of_mem_updates (s := s) hp

theorem remember (h : Twins base s t) (last : Option Selection) :
    Twins base { s with sync.last := last } { t with sync.last := last } :=
  h.sync (fun sync => { sync with last }) fun _ => rfl

theorem sourceSelected (h : Twins base s t) (hcurrent : s.Current base) (hd : s.host.Separate)
    (hattends : s.Attends change unit) (hshows : s.host.Shows change.editor)
    (hsource : unit.references change.editor.document = true) :
    Twins base (s.sourceSelectedVia apply unit change) (t.sourceSelectedVia issue unit change) := by
  have hremembered := h.remember (some (.source change.editor.document change.line))
  unfold sourceSelectedVia
  rw [h.visible_eq]
  refine (hremembered.putAll (hcurrent.remember _) hd fun p hp => ?_).revealAll
  exact (hattends.selectedOn_sourcePuts hshows hsource p hp).2.1

theorem lineSelected (h : Twins base s t) (hcurrent : s.Current base) (hd : s.host.Separate)
    (hshows : s.host.Shows change.editor)
    (hassembly : change.editor.document = s.sync.docs.assembly) :
    Twins base (s.lineSelectedVia apply unit change) (t.lineSelectedVia issue unit change) := by
  have hremembered := h.remember (some (.assembly change.line))
  unfold lineSelectedVia
  rw [h.visible_eq]
  refine hremembered.putAll (hcurrent.remember _) hd fun p hp => ?_
  exact (selectedOn_assemblyPuts hshows hassembly p hp).2.1

theorem highlightTarget (h : Twins base s t) (hcurrent : s.Current base) (hd : s.host.Separate)
    (hshows : s.host.Shows e) :
    Twins base (s.highlightTargetVia apply e target) (t.highlightTargetVia issue e target) := by
  refine (h.putAll hcurrent hd fun p hp => ?_).revealAll
  rw [(VisibleSet.mem_targetPuts_iff.1 hp).2]
  exact hshows

/-- Both hosts open the same editor for a source, or none. -/
theorem asked (h : Twins base s t) (v : VisibleSet) (document : Uri) :
    Twins base (s.asked Host.openSource v document).1 (t.asked Host.openSource v document).1 ∧
      (t.asked Host.openSource v document).2 = (s.asked Host.openSource v document).2 := by
  have hhost : t.host = { s.host with calls := t.host.calls } :=
    congrArg (fun r : Synced => { r.host with calls := t.host.calls }) h.rest
  have hanswer := s.host.showDocument_withCalls document (some (columnForSources v)) true
    t.host.calls
  rw [← hhost] at hanswer
  have hsync : ({ t.sync with ledger := {} } : Synchronizer) = { s.sync with ledger := {} } :=
    congrArg Synced.sync h.rest
  refine ⟨⟨?_, h.screen⟩, ?_⟩
  · simp only [Synced.asked, Host.openSource, Synced.record, Synced.rest, hanswer, hsync]
  · simp only [Synced.asked, Host.openSource, hanswer]

/-- The source line that a line of the listing came from. -/
theorem showTarget {v : VisibleSet} (h : Twins base s t) (hcurrent : s.Current base)
    (hd : s.host.Separate) (hv : ∀ e ∈ v.sources, s.host.Shows e)
    (hd' : (s.showTargetVia apply v target).host.Distinct) :
    Twins base (s.showTargetVia apply v target) (t.showTargetVia issue v target) := by
  unfold showTargetVia at hd' ⊢
  rw [sourceEditor_eq, sourceEditorBy] at hd' ⊢
  rw [sourceEditor_eq, sourceEditorBy]
  cases he : v.sourceFor? target.file with
  | some e =>
    exact h.highlightTarget hcurrent hd (hv e (VisibleSet.mem_sources_of_sourceFor? he).1)
  | none =>
    obtain ⟨htwins, hanswer⟩ := h.asked v target.file
    have hasked : (s.asked Host.openSource v target.file).1.host.Distinct →
        (s.asked Host.openSource v target.file).1.Current base :=
      fun hd' => hcurrent.asked (keeps_asked hd') hd'.separate
    have hshows : ∀ e, (s.asked Host.openSource v target.file).2 = some e →
        (s.asked Host.openSource v target.file).1.host.Shows e ∧ e.document = target.file :=
      fun _ => shows_asked
    rw [he] at hd'
    dsimp only at hd' ⊢
    generalize s.asked Host.openSource v target.file = asked at hd' htwins hanswer hasked hshows ⊢
    generalize t.asked Host.openSource v target.file = asked' at htwins hanswer ⊢
    obtain ⟨s', answer⟩ := asked
    obtain ⟨t', answer'⟩ := asked'
    obtain rfl : answer' = answer := hanswer
    cases answer' with
    | none => exact htwins
    | some e =>
      have hrest : (s'.highlightTargetVia apply e target).rest = s'.rest := by
        rw [highlightTargetVia_apply, rest_highlightTarget]
      have hd'' : s'.host.Distinct := (distinct_iff_of_rest hrest).1 hd'
      exact htwins.highlightTarget (hasked hd'') hd''.separate (hshows e rfl).1

/-- **A selection keeps twins.** -/
theorem selection (h : Twins base s t) (hcurrent : s.Current base) (hd : s.host.Separate)
    (hshows : s.host.Shows change.editor)
    (hd' : (s.onSelectionChangedVia apply change).host.Distinct) :
    Twins base (s.onSelectionChangedVia apply change) (t.onSelectionChangedVia issue change) := by
  unfold onSelectionChangedVia at hd' ⊢
  rw [h.phase_eq, h.compiled?_eq, h.docs_eq, h.visible_eq]
  cases hkind : change.kind with
  | none => exact h
  | some kind =>
    cases hphase : s.sync.phase with
    | inactive => exact h
    | active =>
      cases hcompiled : s.compiled? with
      | none => exact h
      | some unit =>
        have hattends : s.Attends change unit := ⟨by rw [hkind]; rfl, hphase, hcompiled⟩
        simp only [hkind, hphase, hcompiled] at hd' ⊢
        by_cases hsource : unit.references change.editor.document = true
        · simp only [hsource, if_true] at hd' ⊢
          exact h.sourceSelected hcurrent hd hattends hshows hsource
        · simp only [hsource] at hd' ⊢
          by_cases hassembly : change.editor.document = s.sync.docs.assembly
          · have hselected : Twins base (s.lineSelectedVia apply unit change)
                (t.lineSelectedVia issue unit change) :=
              h.lineSelected hcurrent hd hshows hassembly
            rw [if_pos hassembly] at hd' ⊢
            rw [if_pos hassembly]
            cases hline : unit.definitionAt? change.line with
            | none => exact hselected
            | some target =>
              rw [hline] at hd'
              exact hselected.showTarget (hcurrent.lineSelected hd hshows hassembly).2
                (separate_putAll.2 hd) (fun e he => shows_putAll.2 (shows_of_mem_editors
                  (VisibleSet.mem_editors_of_mem_sources he))) hd'
          · simp only [hassembly, if_false] at hd' ⊢
            exact h

/-- **A command keeps twins** if the ledger is up to date, or if it is the news of a change. -/
theorem handle {command : ViewCommand} (h : Twins base s t)
    (hcurrent : command ≠ .visibleEditorsChanged → s.Current base) (hd : s.host.Separate)
    (hshows : ∀ change, command = .selection change → s.host.Shows change.editor)
    (hd' : (s.handle command).host.Distinct) :
    Twins base (s.handle command) (t.handleVia issue command) := by
  rw [← handleVia_apply] at hd' ⊢
  cases command with
  | visibleEditorsChanged => exact h.onVisibleEditorsChanged hd
  | refresh => exact h.refresh (hcurrent ViewCommand.noConfusion) hd
  | unit state => exact h.onUnitChanged (hcurrent ViewCommand.noConfusion) hd state
  | selection change =>
    exact h.selection (hcurrent ViewCommand.noConfusion) hd (hshows change rfl) hd'
  | close => exact h.dispose (hcurrent ViewCommand.noConfusion) hd

end Twins

end Synced

namespace Scene

variable {s t : Scene} {event : Event} {events more : List Event}

/-! ### Runs without a ledger -/

/-- The scene after an event, for any way of putting decorations. -/
def afterVia (put : Putter) (s : Scene) : Event → Scene
  | .command command => s.became command (s.view.handleVia put command)
  | .host host => s.after (.host host)

/-- The scene after a run, for any way of putting decorations. -/
def afterAllVia (put : Putter) : Scene → List Event → Scene
  | s, [] => s
  | s, event :: events => (s.afterVia put event).afterAllVia put events

/-- **With a ledger these are the scenes of the model.** -/
theorem afterVia_apply : s.afterVia Synced.apply event = s.after event := by
  cases event with
  | command command => rw [afterVia, after, Synced.handleVia_apply]
  | host _ => rfl

theorem afterAllVia_apply : s.afterAllVia Synced.apply events = s.afterAll events := by
  induction events generalizing s with
  | nil => rfl
  | cons event events ih => rw [afterAllVia, afterVia_apply, ih, afterAll]

/-! ### Changes that are told at once -/

/-- The next command, if any comes, is the news of a change. -/
def TellsNext : List Event → Prop
  | .command .visibleEditorsChanged :: _ | [] => True
  | .command _ :: _ => False
  | .host _ :: events => TellsNext events

/-- Every change of the visible editors by the user is told before the next command. -/
def PromptAll : Scene → List Event → Prop
  | _, [] => True
  | s, .command command :: events => (s.after (.command command)).PromptAll events
  | s, .host host :: events =>
    (s.view.host.moves host = true → TellsNext events) ∧ (s.after (.host host)).PromptAll events

instance decidableTellsNext : DecidablePred TellsNext
  | .command .visibleEditorsChanged :: _ | [] => .isTrue trivial
  | .command .refresh :: _ | .command (.unit _) :: _ | .command (.selection _) :: _
  | .command .close :: _ => .isFalse id
  | .host _ :: events => decidableTellsNext events

instance decidablePromptAll (s : Scene) : (events : List Event) → Decidable (s.PromptAll events)
  | [] => .isTrue trivial
  | .command command :: events => decidablePromptAll (s.after (.command command)) events
  | .host host :: events =>
    have := decidablePromptAll (s.after (.host host)) events
    inferInstanceAs (Decidable ((s.view.host.moves host = true → TellsNext events) ∧
      (s.after (.host host)).PromptAll events))

theorem TellsNext.eq_of_command {command : ViewCommand}
    (h : TellsNext (.command command :: events)) : command = .visibleEditorsChanged := by
  cases command with
  | visibleEditorsChanged => rfl
  | refresh | unit _ | selection _ | close => exact absurd h id

theorem TellsNext.of_append (h : TellsNext (events ++ more)) : TellsNext events := by
  induction events with
  | nil => trivial
  | cons event events ih =>
    cases event with
    | host host => exact ih h
    | command command =>
      cases TellsNext.eq_of_command h
      trivial

theorem PromptAll.of_append (h : s.PromptAll (events ++ more)) : s.PromptAll events := by
  induction events generalizing s with
  | nil => trivial
  | cons event events ih =>
    cases event with
    | command command => exact ih h
    | host host => exact ⟨fun hmoves => (h.1 hmoves).of_append, ih h.2⟩

theorem PromptAll.tail (h : s.PromptAll (event :: events)) : (s.after event).PromptAll events := by
  cases event with
  | command command => exact h
  | host host => exact h.2

/-- Before the given events the ledger is up to date, or the view is told of a change by the next
command. -/
def UpToDate (s : Scene) (events : List Event) : Prop :=
  s.view.Current s.base ∨ TellsNext events

theorem UpToDate.current {command : ViewCommand} (h : s.UpToDate (.command command :: events))
    (hcommand : command ≠ .visibleEditorsChanged) : s.view.Current s.base :=
  h.resolve_right fun htells => hcommand htells.eq_of_command

/-- **Every event leaves the ledger up to date**, also one in which the host opens an editor for
the view. -/
theorem UpToDate.after (h : s.UpToDate (event :: events)) (hd : s.Distinct)
    (hallowed : s.Allows event) (hprompt : s.PromptAll (event :: events))
    (hd' : (s.after event).Distinct) : (s.after event).UpToDate events := by
  cases event with
  | command command =>
    refine .inl (Synced.current_handle h.current hd.separate ?_ ?_ hd'.separate)
    · rintro change rfl
      exact hallowed
    · rintro change rfl
      exact (Synced.marking hallowed).keeps hd'
  | host host =>
    by_cases hmoves : s.view.host.moves host = true
    · exact .inr (hprompt.1 hmoves)
    · have hplace : host.place? = s.view.host.place? :=
        Host.place?_eq_of_moves (by simpa using hmoves)
      exact h.imp_left fun hcurrent => hcurrent.of_host rfl hplace (screen_host_of_place? hplace)

/-! ### Side by side -/

/-- Two scenes with the same host, documents, unit, phase and last selection, and the same
screen. -/
structure Twins (s t : Scene) : Prop where
  /-- The screens were the same before the requests that were noted. -/
  base : t.base = s.base
  /-- The views are twins. -/
  view : s.view.Twins s.base t.view

namespace Twins

theorem refl (s : Scene) : s.Twins s :=
  ⟨rfl, rfl, rfl⟩

theorem screen_eq (h : s.Twins t) : t.screen = s.screen := by
  rw [Scene.screen, Scene.screen, h.base, h.view.screen]

theorem visibleEditors_eq (h : s.Twins t) :
    t.view.host.visibleEditors = s.view.host.visibleEditors :=
  congrArg (·.host.visibleEditors) h.view.rest

theorem host (h : s.Twins t) (host : Host) :
    (s.after (.host host)).Twins (t.after (.host host)) := by
  have hplace : t.view.host.place? = s.view.host.place? := congrArg (·.host.place?) h.view.rest
  have hbase : (t.after (.host host)).base = (s.after (.host host)).base := by
    change t.screen.leftBy t.view.host host = s.screen.leftBy s.view.host host
    unfold Screen.leftBy
    rw [hplace, h.screen_eq]
  have hrest : (t.after (.host host)).view.rest = (s.after (.host host)).view.rest :=
    congrArg (fun r : Synced => { r with host := { host with calls := [] } }) h.view.rest
  exact ⟨hbase, hrest, rfl⟩

/-- **Every event keeps twins.** -/
theorem after (h : s.Twins t) (hcurrent : s.UpToDate (event :: events)) (hd : s.Distinct)
    (hallowed : s.Allows event) (hd' : (s.after event).Distinct) :
    (s.after event).Twins (t.afterVia Synced.issue event) := by
  cases event with
  | command command =>
    refine ⟨h.base, h.view.handle hcurrent.current hd.separate ?_ hd'⟩
    rintro change rfl
    exact hallowed
  | host host => exact h.host host

theorem afterAll (h : s.Twins t) (hcurrent : s.UpToDate events) (hallowed : s.AllowsAll events)
    (hd : s.Throughout Distinct events) (hprompt : s.PromptAll events) :
    (s.afterAll events).Twins (t.afterAllVia Synced.issue events) := by
  induction events generalizing s t with
  | nil => exact h
  | cons event events ih =>
    have hd' : (s.after event).Distinct := hd.2.first
    exact ih (h.after hcurrent hd.1 hallowed.1 hd')
      (hcurrent.after hd.1 hallowed.1 hprompt hd') hallowed.2 hd.2 hprompt.tail

end Twins

/-! ### The ledger is sound -/

end Scene

end AsmExplorer
