import AsmExplorer.Proofs.View.Marks

/-!
# Ledgers that are up to date

Once a view was told of the latest change of the visible editors, its ledger says what is on every
visible editor, and it has slots of visible editors only (`Synced.Current`).  So whatever the view
then puts on an editor is seen, also on one that the host opens for it.

It does not matter what happened before: the ledger is emptied when the view is told.  From then on
its commands keep the ledger up to date, as long as no two visible editors stand in the same place
and every selection is made in a visible editor (`Scene.current_afterAll`).
-/

namespace AsmExplorer

namespace Synced

variable {base base' : Screen} {s t : Synced} {e : Editor} {kind : DecorationKind}
  {lines : List Nat} {puts : List Put} {reveals : List (Editor × Nat)}

/-- The ledger is exact on every visible editor, and has slots of visible editors only. -/
structure Current (base : Screen) (s : Synced) : Prop where
  /-- The ledger is exact. -/
  exact : s.Exactly base
  /-- Every slot of the ledger is that of a visible editor. -/
  covered : ∀ slot lines, s.sync.ledger.get? slot = some lines →
    ∃ id, s.host.place? id = some (slot.1, slot.2.1)

/-! ### Putting decorations -/

/-- The ledger is exact for a kind of decorations on every visible editor. -/
def ExactFor (base : Screen) (kind : DecorationKind) (s : Synced) : Prop :=
  ∀ e, s.host.Shows e → s.Exact base e kind

namespace ExactFor

/-- Where the ledger is exact, what is put is seen; decorations of other kinds do not matter. -/
theorem screen_apply {p : Put} (h : s.ExactFor base kind)
    (hp : p.kind = kind → s.host.Shows p.editor) (id : String) :
    (s.apply p.editor p.kind p.lines).screen base id kind =
      (s.screen base).set p.editor.id p.kind p.lines id kind := by
  rw [Synced.screen_apply]
  split
  · rename_i hnoted
    by_cases hkind : p.kind = kind
    · subst hkind
      rw [Screen.set_eq_self (h p.editor (hp rfl) p.lines hnoted)]
    · rw [Screen.set_of_ne fun heq => hkind heq.2.symm]
  · rfl

theorem apply {p : Put} (h : s.ExactFor base kind) (hd : s.host.Separate)
    (hp : p.kind = kind → s.host.Shows p.editor) :
    (s.apply p.editor p.kind p.lines).ExactFor base kind := by
  intro e he noted hnoted
  rw [Host.Shows, place?_apply] at he
  rw [get?_apply] at hnoted
  rw [h.screen_apply hp]
  by_cases hslot : Ledger.slot e kind = Ledger.slot p.editor p.kind
  · have hkind : kind = p.kind := (Prod.mk.inj (Prod.mk.inj hslot).2).2
    obtain ⟨hid, -⟩ := id_eq_of_slot_eq hd he (hp hkind.symm) hslot
    rw [if_pos hslot] at hnoted
    rw [hid, hkind, Screen.set_self]
    exact Option.some.inj hnoted
  · rw [if_neg hslot] at hnoted
    rw [Screen.set_of_ne, h e he noted hnoted]
    rintro ⟨hid, hkind⟩
    -- a visible editor stands in one place only
    have he' : s.host.place? p.editor.id = some (p.editor.document, p.editor.column) :=
      hp hkind.symm
    rw [hid, he'] at he
    obtain ⟨hdocument, hcolumn⟩ := Prod.mk.inj (Option.some.inj he)
    exact hslot (by rw [Ledger.slot, Ledger.slot, hdocument, hcolumn, hkind])

/-- What is put on visible editors is seen, and the ledger stays exact. -/
theorem putAll (h : s.ExactFor base kind) (hd : s.host.Separate)
    (hshows : ∀ p ∈ puts, p.kind = kind → s.host.Shows p.editor) :
    (∀ id, (s.putAll puts).screen base id kind = (s.screen base).putAll puts id kind) ∧
      (s.putAll puts).ExactFor base kind := by
  induction puts generalizing s with
  | nil => exact ⟨fun _ => rfl, h⟩
  | cons p puts ih =>
    have hp : p.kind = kind → s.host.Shows p.editor := hshows p List.mem_cons_self
    obtain ⟨hscreen, hexact⟩ := ih (h.apply hd hp) (separate_apply hd) fun q hq hkind => by
      rw [Host.Shows, place?_apply]
      exact hshows q (List.mem_cons_of_mem _ hq) hkind
    refine ⟨fun id => ?_, hexact⟩
    rw [putAll_cons, hscreen, Screen.putAll_cons]
    exact Screen.putAll_congr (.inl (h.screen_apply hp id))

/-- Nothing changes as long as the editors stand where they stood. -/
theorem of_host (h : s.ExactFor base kind)
    (hledger : ∀ e, t.sync.ledger.get? (Ledger.slot e kind) =
      s.sync.ledger.get? (Ledger.slot e kind))
    (hplace : t.host.place? = s.host.place?)
    (hscreen : ∀ id, t.screen base' id kind = s.screen base id kind) :
    t.ExactFor base' kind := by
  intro e he lines hnoted
  rw [Host.Shows, hplace] at he
  rw [hledger] at hnoted
  rw [hscreen]
  exact h e he lines hnoted

end ExactFor

theorem Exactly.exactFor (h : s.Exactly base) (kind : DecorationKind) : s.ExactFor base kind :=
  fun e he => h e kind he

theorem Exactly.screen_apply (h : s.Exactly base) (he : s.host.Shows e) :
    (s.apply e kind lines).screen base = (s.screen base).set e.id kind lines := by
  funext id kind'
  exact (h.exactFor kind').screen_apply (p := ⟨e, kind, lines⟩) (fun _ => he) id

theorem Exactly.apply (h : s.Exactly base) (hd : s.host.Separate) (he : s.host.Shows e) :
    (s.apply e kind lines).Exactly base := by
  intro e' kind'
  exact (h.exactFor kind').apply (p := ⟨e, kind, lines⟩) hd (fun _ => he) e'

namespace Current

theorem apply (h : s.Current base) (hd : s.host.Separate) (he : s.host.Shows e) :
    (s.apply e kind lines).Current base where
  exact := h.exact.apply hd he
  covered slot noted hnoted := by
    rw [get?_apply] at hnoted
    rw [place?_apply]
    by_cases hslot : slot = Ledger.slot e kind
    · exact ⟨e.id, by rw [hslot]; exact he⟩
    · rw [if_neg hslot] at hnoted
      exact h.covered slot noted hnoted

/-- What is put on visible editors is seen, and the ledger stays up to date. -/
theorem putAll (h : s.Current base) (hd : s.host.Separate)
    (hshows : ∀ p ∈ puts, s.host.Shows p.editor) :
    (s.putAll puts).screen base = (s.screen base).putAll puts ∧ (s.putAll puts).Current base := by
  induction puts generalizing s with
  | nil => exact ⟨rfl, h⟩
  | cons p puts ih =>
    have hp : s.host.Shows p.editor := hshows p List.mem_cons_self
    have hafter : (s.apply p.editor p.kind p.lines).Current base := h.apply hd hp
    obtain ⟨hscreen, hcurrent⟩ := ih hafter (separate_apply hd) fun q hq => by
      rw [Host.Shows, place?_apply]
      exact hshows q (List.mem_cons_of_mem _ hq)
    refine ⟨?_, hcurrent⟩
    rw [putAll_cons, hscreen, h.exact.screen_apply hp, Screen.putAll_cons]

theorem of_host (h : s.Current base) (hledger : t.sync.ledger = s.sync.ledger)
    (hplace : t.host.place? = s.host.place?) (hscreen : t.screen base' = s.screen base) :
    t.Current base' where
  exact := h.exact.of_host hledger hplace hscreen
  covered slot lines hnoted := by
    rw [hplace]
    exact h.covered slot lines (hledger ▸ hnoted)

theorem of_empty (hledger : s.sync.ledger = {}) : s.Current base where
  exact := .of_empty hledger
  covered slot lines hnoted := by
    rw [hledger] at hnoted
    cases hnoted

theorem revealAll (h : s.Current base) : (s.revealAll reveals).Current base := by
  refine h.of_host ?_ place?_revealAll screen_revealAll
  rw [sync_revealAll]

theorem putVisible (h : s.Current base) (hd : s.host.Separate)
    (hputs : ∀ p ∈ puts, p.editor ∈ s.visible.editors) : (s.putAll puts).Current base :=
  (h.putAll hd fun p hp => shows_of_mem_editors (hputs p hp)).2

/-! ### The reactions keep ledgers up to date -/

theorem blanks (h : s.Current base) (hd : s.host.Separate) :
    (s.putAll s.visible.blanks).Current base :=
  h.putVisible hd fun _ hp => (VisibleSet.mem_blanks_iff.1 hp).1

theorem refresh (h : s.Current base) (hd : s.host.Separate) : s.refresh.Current base := by
  have hphase : (s.updatePhase s.visible).Current base := h.of_host rfl rfl rfl
  rw [refresh_eq]
  refine (hphase.blanks hd).putVisible (separate_putAll.2 hd) fun p hp => ?_
  rw [visible_putAll]
  split at hp
  · exact VisibleSet.mem_editors_of_mem_decorations hp
  · cases hp

theorem onUnitChanged (h : s.Current base) (hd : s.host.Separate) (state : UnitState) :
    (s.onUnitChanged state).Current base := by
  have hreplaced :
      { s.putAll s.visible.blanks with sync.unit := some state : Synced }.Current base :=
    (h.blanks hd).of_host rfl rfl rfl
  rw [onUnitChanged_eq]
  exact hreplaced.refresh (separate_putAll.2 hd)

theorem dispose (h : s.Current base) (hd : s.host.Separate) : s.dispose.Current base := by
  rw [dispose_eq]
  exact (h.blanks hd).of_host rfl rfl rfl

theorem remember (h : s.Current base) (last : Option Selection) :
    { s with sync.last := last : Synced }.Current base :=
  h.of_host rfl rfl rfl

theorem select (h : s.Current base) (hd : s.host.Separate) (hputs : s.SelectedOn puts) :
    (s.putAll puts).Current base :=
  (h.putAll hd fun p hp => (hputs p hp).2.1).2

/-- Asking for a document keeps the ledger up to date.  If the host opens an editor, its place was
free, so the ledger has no slot for it. -/
theorem asked {v : VisibleSet} {document : Uri} (h : s.Current base)
    (hkeeps : s.host.Keeps (s.asked Host.openSource v document).1.host)
    (hd : (s.asked Host.openSource v document).1.host.Separate) :
    (s.asked Host.openSource v document).1.Current base := by
  have hstays : ∀ {slot lines}, s.sync.ledger.get? slot = some lines →
      ∃ id, s.host.place? id = some (slot.1, slot.2.1) ∧
        (s.asked Host.openSource v document).1.host.place? id = some (slot.1, slot.2.1) := by
    intro slot lines hnoted
    obtain ⟨id, hplace⟩ := h.covered slot lines hnoted
    obtain hsame | hhidden := hkeeps id
    · exact ⟨id, hplace, hsame.trans hplace⟩
    · rw [hplace] at hhidden
      cases hhidden
  constructor
  · intro e kind he lines hnoted
    obtain ⟨id, hplace, hplace'⟩ := hstays hnoted
    have hid : e.id = id := hd _ _ _ he hplace'
    have hshows : s.host.Shows e := by rwa [Host.Shows, hid]
    exact h.exact e kind hshows lines hnoted
  · intro slot lines hnoted
    obtain ⟨id, -, hplace'⟩ := hstays hnoted
    exact ⟨id, hplace'⟩

theorem marking (h : s.Current base) (hd : s.host.Separate) (hmarking : s.Marking t)
    (hkeeps : s.host.Keeps t.host) (hd' : t.host.Separate) : t.Current base := by
  cases hmarking with
  | ignored => exact h
  | @marked last _ _ _ _ hon => exact ((h.remember last).select hd hon).revealAll
  | @asked last puts more document reveals _ _ hon hmore =>
    -- neither marks nor scrolling move an editor, so the host keeps its editors when it is asked
    have hputs := (h.remember last).select hd hon
    have hasked := separate_putAll.1 ((Host.separate_congr place?_revealAll).1 hd')
    refine ((hputs.asked (fun id => ?_) hasked).select hasked hmore).revealAll
    rw [place?_putAll]
    simpa only [place?_revealAll, place?_putAll] using hkeeps id

end Current

/-- **A view that is told of a change has its ledger up to date**, whatever was in it. -/
theorem current_onVisibleEditorsChanged (hd : s.host.Separate) :
    s.onVisibleEditorsChanged.Current base := by
  have hempty : ({ s with sync.ledger := {} : Synced }.updatePhase s.visible).Current base :=
    .of_empty rfl
  rw [onVisibleEditorsChanged_eq]
  exact hempty.putVisible hd fun p hp => mem_editors_of_mem_updates (s := s) hp

/-- A command keeps the ledger up to date, or brings it up to date if it is the news of a change. -/
theorem current_handle {command : ViewCommand}
    (h : command ≠ .visibleEditorsChanged → s.Current base) (hd : s.host.Separate)
    (hshows : ∀ change, command = .selection change → s.host.Shows change.editor)
    (hkeeps : ∀ change, command = .selection change → s.host.Keeps (s.handle command).host)
    (hd' : (s.handle command).host.Separate) : (s.handle command).Current base := by
  cases command with
  | visibleEditorsChanged => exact current_onVisibleEditorsChanged hd
  | refresh => exact (h ViewCommand.noConfusion).refresh hd
  | unit state => exact (h ViewCommand.noConfusion).onUnitChanged hd state
  | selection change =>
    exact (h ViewCommand.noConfusion).marking hd (marking (hshows change rfl))
      (hkeeps change rfl) hd'
  | close => exact (h ViewCommand.noConfusion).dispose hd

end Synced

namespace Scene

variable {s : Scene} {event : Event} {events : List Event}

/-- A selection that is made while the view knows of the latest change is made in a visible
editor. -/
def Timely (s : Scene) : Event → Prop
  | .command (.selection change) => s.news = false → s.view.host.Shows change.editor
  | _ => True

/-- Every selection of a run is timely. -/
def TimelyAll : Scene → List Event → Prop
  | _, [] => True
  | s, event :: events => s.Timely event ∧ (s.after event).TimelyAll events

/-- The ledger is up to date unless the view is still to be told of a change, or two visible editors
stand in the same place. -/
def Current (s : Scene) : Prop :=
  s.news = false → s.view.host.Separate → s.view.Current s.base

theorem current_initial (docs : ViewDocuments) (settings : SyncSettings) (host : Host) :
    (initial docs settings host).Current :=
  fun _ _ => .of_empty rfl

/-- **Every event keeps ledgers up to date.** -/
theorem Current.after (h : s.Current) (htimely : s.Timely event) : (s.after event).Current := by
  intro hnews hd
  by_cases hevent : event = .command .visibleEditorsChanged
  · subst hevent
    -- the view sees what was visible before the command
    exact Synced.current_onVisibleEditorsChanged
      ((Host.separate_congr Synced.place?_onVisibleEditorsChanged).1 hd)
  · obtain ⟨hbefore, hplace⟩ := of_news_eq_false hevent hnews
    have hd' : s.view.host.Separate := (Host.separate_congr hplace).1 hd
    have hcurrent := h hbefore hd'
    cases event with
    | command command =>
      refine Synced.current_handle (fun _ => hcurrent) hd' ?_ (fun _ _ => .of_eq hplace) hd
      rintro change rfl
      exact htimely hbefore
    | host host => exact hcurrent.of_host rfl hplace (screen_host_of_place? hplace)

theorem Current.afterAll (h : s.Current) (htimely : s.TimelyAll events) :
    (s.afterAll events).Current := by
  induction events generalizing s with
  | nil => exact h
  | cons event events ih => exact ih (h.after htimely.1) htimely.2

/-- **After every run in which selections are timely the ledger is up to date**, once the view was
told of the latest change. -/
theorem current_afterAll (docs : ViewDocuments) (settings : SyncSettings) (host : Host)
    (htimely : (initial docs settings host).TimelyAll events) :
    ((initial docs settings host).afterAll events).Current :=
  (current_initial docs settings host).afterAll htimely

/-! ### Runs that can be checked -/

instance decidableTimely (s : Scene) : (event : Event) → Decidable (s.Timely event)
  | .command (.selection change) =>
    inferInstanceAs (Decidable (s.news = false → s.view.host.Shows change.editor))
  | .command .refresh | .command (.unit _) | .command .visibleEditorsChanged | .command .close
  | .host _ => .isTrue trivial

instance decidableTimelyAll (s : Scene) : (events : List Event) → Decidable (s.TimelyAll events)
  | [] => .isTrue trivial
  | event :: events =>
    have := decidableTimelyAll (s.after event) events
    inferInstanceAs (Decidable (s.Timely event ∧ (s.after event).TimelyAll events))

end Scene

end AsmExplorer
