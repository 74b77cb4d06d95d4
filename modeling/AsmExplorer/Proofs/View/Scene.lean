import AsmExplorer.Proofs.Cache.Run
import AsmExplorer.Proofs.View.Tidy

/-!
# A view and its screen over time

A `Scene` is a view with the screen of its host.  The view carries out commands, which put
decorations on the screen, and the user changes the host in any way, which drops the decorations of
every editor that leaves the screen, moves to another column or shows another document.  The view is
not told of this at once, or at all.

* `Scene.news` : an editor has come, left the screen or moved since the view was last told.
* `Scene.seen` : the host as it was when the view last put its marks in place.  A document that
  grows or shrinks is no news, and is not as the view has seen it.

Whatever happens, the screen stays tidy (`Scene.tidy_afterAll`).
-/

namespace AsmExplorer

/-- What the host leaves on the screen when it changes: the decorations of the editors that stay
visible in their places. -/
def Screen.leftBy (screen : Screen) (before after : Host) : Screen :=
  fun id kind => if after.place? id = before.place? id then screen id kind else []

/-- Whether a command makes the view put its marks on the visible editors. -/
def ViewCommand.marks : ViewCommand → Bool
  | .refresh | .unit _ | .visibleEditorsChanged => true
  | .selection _ | .close => false

/-- A view with the screen of its host. -/
structure Scene where
  /-- The view and its host. -/
  view : Synced
  /-- The screen before the requests that the host has noted. -/
  base : Screen := .blank
  /-- Whether the visible editors have changed since the view was last told of a change. -/
  news : Bool := false
  /-- The host when the view last put its marks on the visible editors. -/
  seen : Host

namespace Scene

/-- What happens in a scene. -/
inductive Event where
  /-- The view carries out a command. -/
  | command (command : ViewCommand)
  /-- The user changes the host. -/
  | host (host : Host)

/-- A scene that nothing has happened in. -/
def initial (docs : ViewDocuments) (settings : SyncSettings) (host : Host) : Scene :=
  { view := { sync := { docs, settings }, host := { host with calls := [] } }, seen := host }

/-- The screen. -/
def screen (s : Scene) : Screen :=
  s.view.screen s.base

/-- Whether the view is still to be told of a change when it has become another by a command. -/
def newsAfter (s : Scene) (view : Synced) : ViewCommand → Bool
  | .visibleEditorsChanged => false
  | _ => s.news || s.view.host.moves view.host

/-- The scene when the view has become another by a command. -/
def became (s : Scene) (command : ViewCommand) (view : Synced) : Scene :=
  { s with
    view
    news := s.newsAfter view command
    seen := if command.marks then s.view.host else s.seen }

/-- The scene after an event. -/
def after (s : Scene) : Event → Scene
  | .command command => s.became command (s.view.handle command)
  | .host host =>
    { s with
      view := { s.view with host := { host with calls := [] } }
      base := s.screen.leftBy s.view.host host
      news := s.news || s.view.host.moves host }

/-- The scene after a run. -/
def afterAll : Scene → List Event → Scene
  | s, [] => s
  | s, event :: events => (s.after event).afterAll events

/-- A selection is made in a visible editor. -/
def Allows (s : Scene) : Event → Prop
  | .command (.selection change) => s.view.host.Shows change.editor
  | _ => True

/-- Every selection of a run is made in a visible editor. -/
def AllowsAll : Scene → List Event → Prop
  | _, [] => True
  | s, event :: events => s.Allows event ∧ (s.after event).AllowsAll events

/-- Something holds in every scene of a run, from the first to the last. -/
def Throughout (P : Scene → Prop) : Scene → List Event → Prop
  | s, [] => P s
  | s, event :: events => P s ∧ (s.after event).Throughout P events

/-- No two visible editors stand in the same place. -/
def Distinct (s : Scene) : Prop :=
  s.view.host.Distinct

/-- At most one visible editor shows the listing. -/
def OneListing (s : Scene) : Prop :=
  s.view.OneListing

/-- No two visible editors stand in the same place, and at most one shows the listing. -/
def Orderly (s : Scene) : Prop :=
  s.Distinct ∧ s.OneListing

/-- The visible editors are as long as the view has seen them. -/
def Measured (s : Scene) : Prop :=
  s.seen.SameLengths s.view.host

variable {s : Scene} {P I : Scene → Prop} {events more : List Event}

theorem afterAll_append (s : Scene) (events more : List Event) :
    s.afterAll (events ++ more) = (s.afterAll events).afterAll more := by
  induction events generalizing s with
  | nil => rfl
  | cons event events ih => exact ih _

@[simp] theorem view_command (command : ViewCommand) :
    (s.after (.command command)).view = s.view.handle command :=
  rfl

@[simp] theorem base_command (command : ViewCommand) :
    (s.after (.command command)).base = s.base :=
  rfl

theorem screen_command (command : ViewCommand) :
    (s.after (.command command)).screen = (s.view.handle command).screen s.base :=
  rfl

theorem Throughout.first (h : s.Throughout P events) : P s := by
  cases events with
  | nil => exact h
  | cons _ _ => exact h.1

theorem Throughout.last (h : s.Throughout P events) : P (s.afterAll events) := by
  induction events generalizing s with
  | nil => exact h
  | cons _ _ ih => exact ih h.2

theorem allowsAll_append :
    s.AllowsAll (events ++ more) ↔ s.AllowsAll events ∧ (s.afterAll events).AllowsAll more := by
  induction events generalizing s with
  | nil => simp [AllowsAll, afterAll]
  | cons event events ih => simp [AllowsAll, afterAll, ih, and_assoc]

theorem throughout_append : s.Throughout P (events ++ more) ↔
    s.Throughout P events ∧ (s.afterAll events).Throughout P more := by
  induction events generalizing s with
  | nil => exact ⟨fun h => ⟨h.first, h⟩, And.right⟩
  | cons event events ih => simp [Throughout, afterAll, ih, and_assoc]

/-- What holds at first and is kept by every allowed event holds in the end. -/
theorem afterAll_induction (hstep : ∀ s event, I s → P s → s.Allows event → P (s.after event) →
    I (s.after event)) (h : I s) (hallowed : s.AllowsAll events) (hP : s.Throughout P events) :
    I (s.afterAll events) := by
  induction events generalizing s with
  | nil => exact h
  | cons event events ih =>
    exact ih (hstep s event h hP.1 hallowed.1 hP.2.first) hallowed.2 hP.2

/-! ### Tidy scenes -/

/-- The ledger is honest, and only editors that concern the view are decorated. -/
def Tidy (s : Scene) : Prop :=
  s.view.Tidy s.base

variable {s : Scene} {event : Event} {events : List Event}

theorem tidy_initial (docs : ViewDocuments) (settings : SyncSettings) (host : Host) :
    (initial docs settings host).Tidy := by
  constructor
  · constructor
    · intro e kind lines _ hnoted
      cases hnoted
    · intro id kind hne
      exact absurd rfl hne
  · intro id kind place hne _
    exact absurd rfl hne

theorem Tidy.after (h : s.Tidy) (hd : s.Distinct) (hallowed : s.Allows event)
    (hd' : (s.after event).Distinct) : (s.after event).Tidy := by
  cases event with
  | command command =>
    refine Synced.Tidy.handle h hd command ?_ hd'
    rintro change rfl
    exact hallowed
  | host host =>
    refine Synced.Tidy.of_host h rfl rfl (.inl rfl) fun id kind => ?_
    change s.screen.leftBy s.view.host host id kind = [] ∨
      s.screen.leftBy s.view.host host id kind = s.screen id kind ∧
        host.place? id = s.view.host.place? id
    unfold Screen.leftBy
    split
    · exact .inr ⟨rfl, ‹_›⟩
    · exact .inl rfl

/-- **Screens stay tidy** as long as selections name visible editors and no two visible editors have
the same document and column. -/
theorem tidy_afterAll (docs : ViewDocuments) (settings : SyncSettings) (host : Host)
    (hallowed : (initial docs settings host).AllowsAll events)
    (hdistinct : (initial docs settings host).Throughout Distinct events) :
    ((initial docs settings host).afterAll events).Tidy :=
  afterAll_induction (fun _ _ h hd hallowed hd' => h.after hd hallowed hd')
    (tidy_initial docs settings host) hallowed hdistinct

/-! ### Runs that can be checked -/

instance (h : Host) (e : Editor) : Decidable (h.Shows e) :=
  inferInstanceAs (Decidable (h.place? e.id = some (e.document, e.column)))

instance : DecidablePred Distinct :=
  fun s => inferInstanceAs (Decidable (s.view.host.visibleEditors.map _).Nodup)

instance (h h' : Host) : Decidable (h.SameLengths h') :=
  inferInstanceAs (Decidable (∀ e ∈ h.visibleEditors, ∀ e' ∈ h'.visibleEditors, _))

instance : DecidablePred Measured :=
  fun s => inferInstanceAs (Decidable (s.seen.SameLengths s.view.host))

instance : DecidablePred OneListing :=
  fun s => inferInstanceAs (Decidable (s.view.host.visibleEditors.countP _ ≤ 1))

instance : DecidablePred Orderly :=
  fun s => inferInstanceAs (Decidable (s.Distinct ∧ s.OneListing))

instance decidableAllows (s : Scene) : (event : Event) → Decidable (s.Allows event)
  | .command (.selection change) => inferInstanceAs (Decidable (s.view.host.Shows change.editor))
  | .command .refresh | .command (.unit _) | .command .visibleEditorsChanged | .command .close
  | .host _ => .isTrue trivial

instance decidableAllowsAll (s : Scene) : (events : List Event) → Decidable (s.AllowsAll events)
  | [] => .isTrue trivial
  | event :: events =>
    have := decidableAllowsAll (s.after event) events
    inferInstanceAs (Decidable (s.Allows event ∧ (s.after event).AllowsAll events))

instance decidableThroughout (P : Scene → Prop) [DecidablePred P] (s : Scene) :
    (events : List Event) → Decidable (s.Throughout P events)
  | [] => inferInstanceAs (Decidable (P s))
  | event :: events =>
    have := decidableThroughout P (s.after event) events
    inferInstanceAs (Decidable (P s ∧ (s.after event).Throughout P events))

/-- The view of `file:///a.c`. -/
def exampleDocs : ViewDocuments :=
  { primary := exampleSource, assembly := exampleView }

/-- The header `file:///b.h`. -/
def exampleHeader : Uri :=
  { scheme := "file".toList, authority := some Uri.localAuthority, path := "/b.h".toList
    query := none, fragment := none }

/-- A listing with one line from the source and one from the header. -/
def exampleUnit : CompiledUnit :=
  .ofLines exampleSource exampleView
    [{ text := "mov eax, 1", source := some { file := .ofText "/a.c", line := 2, column := none } },
      { text := "ret", source := some { file := .ofText "/b.h", line := 1, column := none } }]

/-- A listing with one line from the source. -/
def bareUnit : CompiledUnit :=
  .ofLines exampleSource exampleView
    [{ text := "ret", source := some { file := .ofText "/a.c", line := 2, column := none } }]

/-- An editor of the source. -/
def sourceEditor : Editor :=
  { id := "source", document := exampleSource, lineCount := 3, column := some 1, cursor := 0 }

/-- An editor of the header. -/
def headerEditor : Editor :=
  { id := "header", document := exampleHeader, lineCount := 2, column := some 3, cursor := 0 }

/-- The editor of the listing. -/
def listingEditor : Editor :=
  { id := "listing", document := exampleView, lineCount := 2, column := some 2, cursor := 0 }

/-- A host that shows the given editors. -/
def showing (editors : List Editor) : Host :=
  { editors, visible := editors.map Editor.id }

/-- The source, the header and the listing are visible, and the listing has come. -/
def compiledRun : List Event :=
  [.command .refresh, .command (.unit (.compiled exampleUnit))]

/-- A line is selected with the mouse. -/
def select (editor : Editor) (line : Nat) : Event :=
  .command (.selection { editor, line, kind := some .mouse })

end Scene

end AsmExplorer
