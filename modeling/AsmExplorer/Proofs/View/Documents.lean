import AsmExplorer.View.Registry

/-!
# What a view keeps

The documents of a view and its settings are chosen when it is opened.  No reaction changes them
(`Synced.given_handle`), so the view of a document stays the view of that document whatever it is
told.  Its unit is the one that it was told last, and only that reaction changes it
(`Synced.unit_handle`).  A view shows no errors (`Synced.errors_handle`).
-/

namespace AsmExplorer

/-- The messages of the errors among requests to the host, of which the latest is the first; the
messages are in order. -/
def HostCall.errors : List HostCall → List String
  | [] => []
  | .error message :: calls => errors calls ++ [message]
  | .set _ _ _ :: calls | .reveal _ _ _ :: calls | .show _ _ _ :: calls => errors calls

/-- The messages of the errors that were shown, in order. -/
def Host.errors (h : Host) : List String :=
  HostCall.errors h.calls

/-- The unit that a command tells. -/
def ViewCommand.unit? : ViewCommand → Option UnitState
  | .unit state => some state
  | .refresh | .selection _ | .visibleEditorsChanged | .close => none

theorem Host.errors_showDocument (h : Host) (document : Uri) (column : Option UInt8)
    (preserveFocus : Bool) :
    (h.showDocument document column preserveFocus).1.errors = h.errors := by
  unfold showDocument
  dsimp only
  split
  · rfl
  · split <;> rfl

namespace Synced

/-- The documents and the settings of a view. -/
def given (s : Synced) : ViewDocuments × SyncSettings :=
  (s.sync.docs, s.sync.settings)

/-- What only a new unit changes: the documents, the settings and the unit of a view, and the errors
that were shown. -/
def kept (s : Synced) : (ViewDocuments × SyncSettings) × Option UnitState × List String :=
  (s.given, s.sync.unit, s.host.errors)

variable {s : Synced} {v : VisibleSet} {e : Editor} {unit : CompiledUnit}

theorem kept_foldl {α : Type} {f : Synced → α → Synced} (h : ∀ s a, (f s a).kept = s.kept)
    (l : List α) (s : Synced) : (l.foldl f s).kept = s.kept := by
  induction l generalizing s with
  | nil => rfl
  | cons a l ih => rw [List.foldl_cons, ih, h]

@[simp] theorem kept_apply (kind : DecorationKind) (lines : List Nat) :
    (s.apply e kind lines).kept = s.kept := by
  unfold apply
  split <;> rfl

@[simp] theorem kept_clear : (s.clear v).kept = s.kept :=
  kept_foldl (fun _ _ => kept_foldl (fun _ _ => kept_apply _ _) _ _) _ _

@[simp] theorem kept_showLoading : (s.showLoading v).kept = s.kept := by
  unfold showLoading
  split
  · exact kept_apply _ _
  · rfl

@[simp] theorem kept_dimUnused : (s.dimUnused unit v).kept = s.kept := by
  unfold dimUnused
  split
  · exact kept_foldl (fun _ _ => kept_apply _ _) _ _
  · rfl

/-! ### Selections -/

@[simp] theorem kept_selectSource (line : Nat) (scroll : Bool) :
    (s.selectSource unit v e line scroll).kept = s.kept := by
  unfold selectSource
  split
  · rfl
  · -- scrolling keeps all, so what counts are the two puts
    have hputs : ∀ (assembly : Editor) (lines : List Nat),
        ((s.apply e .selected [line]).apply assembly .selected lines).kept = s.kept := by simp
    dsimp only
    split
    · split <;> exact hputs _ _
    · exact hputs _ _

@[simp] theorem kept_highlightAssembly (line : Nat) :
    (s.highlightAssembly unit v e line).kept = s.kept := by
  unfold highlightAssembly
  split
  · exact kept_apply _ _
  · rw [kept_foldl fun _ _ => kept_apply _ _, kept_apply]

@[simp] theorem kept_highlightTarget (target : SourceLine) (scroll : Bool) :
    (s.highlightTarget e target scroll).kept = s.kept := by
  unfold highlightTarget
  split
  · rfl
  · dsimp only
    split <;> exact kept_apply _ _

@[simp] theorem kept_replayCursor : (s.replayCursor unit v).kept = s.kept := by
  unfold replayCursor
  split
  · exact kept_selectSource _ _
  · rfl

@[simp] theorem kept_replaySelection : (s.replaySelection unit v).kept = s.kept := by
  unfold replaySelection
  split
  · split <;> simp
  · split
    · dsimp only
      split
      · exact kept_highlightAssembly _
      · split <;> simp
    · exact kept_replayCursor
  · exact kept_replayCursor

@[simp] theorem kept_decorate : (s.decorate v).kept = s.kept := by
  unfold decorate
  split
  · exact kept_showLoading
  · rfl
  · dsimp only
    split <;> simp

/-! ### Reactions -/

@[simp] theorem kept_refresh : s.refresh.kept = s.kept := by
  have hclear : ((s.updatePhase s.visible).clear s.visible).kept = s.kept := kept_clear
  unfold refresh
  dsimp only
  split
  · rw [kept_decorate, hclear]
  · exact hclear

theorem kept_onUnitChanged (state : UnitState) :
    (s.onUnitChanged state).kept = (s.given, some state, s.host.errors) := by
  have hclear : (s.clear s.visible).kept = s.kept := kept_clear
  unfold onUnitChanged
  rw [kept_refresh]
  -- of what is kept, only the unit is another
  exact congrArg (fun k => (k.1, some state, k.2.2)) hclear

@[simp] theorem kept_onVisibleEditorsChanged : s.onVisibleEditorsChanged.kept = s.kept := by
  unfold onVisibleEditorsChanged
  dsimp only
  split
  · rw [kept_clear]; rfl
  · rw [kept_decorate]; rfl
  · split
    · rw [kept_showLoading]; rfl
    · rw [kept_dimUnused]; rfl
    · rfl

theorem kept_sourceEditor (document : Uri) : (s.sourceEditor v document).1.kept = s.kept := by
  unfold sourceEditor
  split
  · rfl
  · have herrors := s.host.errors_showDocument document (some (columnForSources v)) true
    exact congrArg (fun errors => (s.given, s.sync.unit, errors)) herrors

@[simp] theorem kept_onSelectionChanged (change : SelectionChange) :
    (s.onSelectionChanged change).kept = s.kept := by
  unfold onSelectionChanged
  split
  · dsimp only
    split
    · exact kept_selectSource _ _
    · split
      · split
        · exact kept_highlightAssembly _
        · -- the source is shown in the editor that is found or opened
          split
          · rename_i heq
            have hopened := congrArg (fun p => p.1.kept) heq
            rw [kept_highlightTarget, ← hopened, kept_sourceEditor]
            exact kept_highlightAssembly _
          · rename_i heq
            have hopened := congrArg (fun p => p.1.kept) heq
            rw [← hopened, kept_sourceEditor]
            exact kept_highlightAssembly _
      · rfl
  · rfl

@[simp] theorem kept_dispose : s.dispose.kept = s.kept :=
  kept_clear

theorem kept_handle (command : ViewCommand) :
    (s.handle command).kept = (s.given, command.unit?.or s.sync.unit, s.host.errors) := by
  cases command with
  | refresh => exact kept_refresh
  | unit state => exact kept_onUnitChanged state
  | selection change => exact kept_onSelectionChanged change
  | visibleEditorsChanged => exact kept_onVisibleEditorsChanged
  | close => exact kept_dispose

/-- **No reaction changes the documents or the settings of a view.** -/
theorem given_handle (command : ViewCommand) : (s.handle command).given = s.given :=
  congrArg Prod.fst (kept_handle command)

/-- **The unit of a view is the one that it was told last.** -/
theorem unit_handle (command : ViewCommand) :
    (s.handle command).sync.unit = command.unit?.or s.sync.unit :=
  congrArg (fun k => k.2.1) (kept_handle command)

/-- **No reaction shows an error.** -/
theorem errors_handle (command : ViewCommand) : (s.handle command).host.errors = s.host.errors :=
  congrArg (fun k => k.2.2) (kept_handle command)

end Synced

end AsmExplorer
