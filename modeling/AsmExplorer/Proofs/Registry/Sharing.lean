import AsmExplorer.Proofs.Registry.FileChanges
import AsmExplorer.Proofs.View.Scene

/-!
# Views that share editors

Two views may have a header in common, and then both decorate its editors.  There is one set of
lines of each kind on an editor, and every view has a ledger of its own, in which it notes what it
put there and never what another view did.

When a view is closed it removes everything from its editors that its own ledger does not say is
gone (`Synced.Wipes`).  This is also what an open view put there after it, and that view still has
it in its ledger (`ViewRegistry.shared_mark_gone`).  Nothing else changes: neither the other views
nor what is on other editors, and of the shared editors those kinds are left alone of which the
closed view put nothing last (`ViewRegistry.closed_view_wipes`).
-/

namespace AsmExplorer

namespace Synced

variable {base : Screen} {s : Synced} {e : Editor} {puts : List Put} {id : String}
  {kind : DecorationKind}

/-- Removing all its decorations, the view removes those of a kind from an editor: the editor is one
of its own, and it has not noted that there are none. -/
def Wipes (s : Synced) (id : String) (kind : DecorationKind) : Prop :=
  ∃ e ∈ s.visible.editors, e.id = id ∧ s.sync.ledger.get? (Ledger.slot e kind) ≠ some []

instance : Decidable (s.Wipes id kind) :=
  inferInstanceAs (Decidable (∃ e ∈ s.visible.editors, _))

/-- The ledger does not have what is to be put. -/
def Due (s : Synced) (p : Put) : Prop :=
  s.sync.ledger.get? (Ledger.slot p.editor p.kind) ≠ some p.lines

/-- After one of two puts of the same lines, the other is due if it was and has another slot. -/
theorem due_apply_iff {p q : Put} (hlines : q.lines = p.lines) :
    (s.apply p.editor p.kind p.lines).Due q ↔
      Ledger.slot q.editor q.kind ≠ Ledger.slot p.editor p.kind ∧ s.Due q := by
  rw [Due, get?_apply, Due]
  by_cases hslot : Ledger.slot q.editor q.kind = Ledger.slot p.editor p.kind
  · simp [hslot, hlines]
  · simp [hslot]

theorem screen_putAll_of_not_due (hempty : ∀ p ∈ puts, p.lines = [])
    (h : ∀ p ∈ puts, p.editor.id = id → p.kind = kind → ¬s.Due p) :
    (s.putAll puts).screen base id kind = s.screen base id kind := by
  induction puts generalizing s with
  | nil => rfl
  | cons p puts ih =>
    have hrest : ∀ q ∈ puts, q.editor.id = id → q.kind = kind →
        ¬(s.apply p.editor p.kind p.lines).Due q := by
      intro q hq hid hkind hdue
      have hlines : q.lines = p.lines := by
        rw [hempty q (List.mem_cons_of_mem _ hq), hempty p List.mem_cons_self]
      exact h q (List.mem_cons_of_mem _ hq) hid hkind ((due_apply_iff hlines).1 hdue).2
    rw [putAll_cons, ih (fun q hq => hempty q (List.mem_cons_of_mem _ hq)) hrest, screen_apply]
    by_cases hp : p.editor.id = id ∧ p.kind = kind
    · rw [if_pos (not_not.1 (h p List.mem_cons_self hp.1 hp.2))]
    · split
      · rfl
      · exact Screen.set_of_ne fun heq => hp ⟨heq.1.symm, heq.2.symm⟩

/-- What is due is put, if no two of the editors stand in the same place. -/
theorem screen_putAll_of_due (hempty : ∀ p ∈ puts, p.lines = [])
    (hslots : ∀ p ∈ puts, ∀ q ∈ puts,
      Ledger.slot p.editor p.kind = Ledger.slot q.editor q.kind → p.editor.id = q.editor.id)
    {p : Put} (hp : p ∈ puts) (hdue : s.Due p) :
    (s.putAll puts).screen base p.editor.id p.kind = [] := by
  induction puts generalizing s with
  | nil => cases hp
  | cons first puts ih =>
    have hfirst : first.lines = [] := hempty first List.mem_cons_self
    have hlines : p.lines = first.lines := (hempty p hp).trans hfirst.symm
    by_cases hslot : Ledger.slot p.editor p.kind = Ledger.slot first.editor first.kind
    · -- the first put is on the same editor, and removes the lines
      have hid : p.editor.id = first.editor.id := hslots p hp first List.mem_cons_self hslot
      have hkind : p.kind = first.kind := congrArg (·.2.2) hslot
      have hgone : (s.apply first.editor first.kind first.lines).screen base p.editor.id p.kind =
          [] := by
        rw [Due, hslot, hlines] at hdue
        rw [screen_apply, if_neg hdue, hid, hkind, Screen.set_self, hfirst]
      rw [putAll_cons]
      -- then nothing comes back, since no later put has lines
      have hlater := @screen_putAll_cases (s.apply first.editor first.kind first.lines) puts base
        p.editor.id p.kind
      obtain hsame | ⟨q, hq, -, -, hput⟩ := hlater
      · rw [hsame, hgone]
      · rw [hput, hempty q (List.mem_cons_of_mem _ hq)]
    · have hmem : p ∈ puts := by
        obtain rfl | hmem := List.mem_cons.1 hp
        · exact absurd rfl hslot
        · exact hmem
      exact ih (fun q hq => hempty q (List.mem_cons_of_mem _ hq))
        (fun q hq q' hq' => hslots q (List.mem_cons_of_mem _ hq) q' (List.mem_cons_of_mem _ hq'))
        hmem ((due_apply_iff hlines).2 ⟨hslot, hdue⟩)

/-- **What a view removes** when it removes all its decorations, whatever is on the screen. -/
theorem screen_blanks_eq (hd : s.host.Distinct) (base : Screen) (id : String)
    (kind : DecorationKind) : (s.putAll s.visible.blanks).screen base id kind =
      if s.Wipes id kind then [] else s.screen base id kind := by
  have hempty : ∀ p ∈ s.visible.blanks, p.lines = [] :=
    fun p hp => (VisibleSet.mem_blanks_iff.1 hp).2
  by_cases hwipes : s.Wipes id kind
  · rw [if_pos hwipes]
    obtain ⟨e, he, rfl, hnoted⟩ := hwipes
    refine screen_putAll_of_due (p := ⟨e, kind, []⟩) hempty (fun p hp q hq hslot => ?_)
      (VisibleSet.mem_blanks_iff.2 ⟨he, rfl⟩) hnoted
    have hpshows := shows_of_mem_editors (VisibleSet.mem_blanks_iff.1 hp).1
    have hqshows := shows_of_mem_editors (VisibleSet.mem_blanks_iff.1 hq).1
    exact (id_eq_of_slot_eq hd.separate hpshows hqshows hslot).1
  · rw [if_neg hwipes]
    refine screen_putAll_of_not_due hempty fun p hp hid hkind hdue => hwipes ?_
    rw [Due, hempty p hp, hkind] at hdue
    exact ⟨p.editor, (VisibleSet.mem_blanks_iff.1 hp).1, hid, hdue⟩

theorem wipes_iff (he : e ∈ s.host.visibleEditors) : s.Wipes e.id kind ↔
    e ∈ s.visible.editors ∧ s.sync.ledger.get? (Ledger.slot e kind) ≠ some [] := by
  constructor
  · rintro ⟨e', he', hid, hnoted⟩
    obtain rfl : e' = e := Host.eq_of_id_eq (of_mem_editors he').1 he hid
    exact ⟨he', hnoted⟩
  · rintro ⟨hmem, hnoted⟩
    exact ⟨e, hmem, rfl, hnoted⟩

/-- What was on a visible editor is still there. -/
theorem wiped_eq_iff (he : e ∈ s.host.visibleEditors) {lines : List Nat} :
    (if s.Wipes e.id kind then [] else lines) = lines ↔
      lines = [] ∨ e ∉ s.visible.editors ∨
        s.sync.ledger.get? (Ledger.slot e kind) = some [] := by
  by_cases hwipes : s.Wipes e.id kind
  · obtain ⟨hmem, hnoted⟩ := (wipes_iff he).1 hwipes
    rw [if_pos hwipes, eq_comm]
    simp only [hmem, hnoted, not_true_eq_false, or_false]
  · rw [if_neg hwipes]
    rw [wipes_iff he, not_and_or, not_not] at hwipes
    exact iff_of_true rfl (.inr hwipes)

end Synced

/-- A view on a host. -/
def OpenView.on (v : OpenView) (host : Host) : Synced :=
  { sync := v.sync, host }

/-- The event is work of a view. -/
def RegistryEvent.IsViewWork : RegistryEvent → Prop
  | .work _ | .workClosing _ => True
  | _ => False

namespace ViewRegistry

variable {r t : ViewRegistry} {work : List RegistryEvent} {event : RegistryEvent} {v : OpenView}

/-- The views have carried out all their commands, and those that were closed have ended. -/
def Drained (r : ViewRegistry) : Prop :=
  (∀ v ∈ r.views, v.queue = []) ∧ r.closing = []

instance : Decidable r.Drained :=
  inferInstanceAs (Decidable (_ ∧ _))

/-- Open views without commands do no work, so what work is done is that of a closed view. -/
theorem exists_workClosing (hviews : ∀ v ∈ r.views, v.queue = []) (hwork : event.IsViewWork)
    (hallowed : r.Allows event) :
    ∃ index, event = .workClosing index ∧ index < r.closing.length := by
  cases event with
  | work index =>
    obtain ⟨v, hv, hne⟩ := hallowed
    exact absurd (hviews v (List.mem_of_getElem? hv)) hne
  | workClosing index => exact ⟨index, rfl, hallowed⟩
  | _ => exact hwork.elim

theorem Drained.work_eq_nil (h : r.Drained) (hwork : ∀ event ∈ work, event.IsViewWork)
    (hallowed : r.AllowsAll work) : work = [] := by
  cases work with
  | nil => rfl
  | cons event work =>
    obtain ⟨index, -, hlt⟩ := exists_workClosing h.1 (hwork event List.mem_cons_self) hallowed.1
    simp [h.2] at hlt

/-- If one view was closed, then that view does the next work. -/
theorem after_of_closing (hviews : ∀ v ∈ r.views, v.queue = []) (hclosing : r.closing = [v])
    (hwork : ∀ event ∈ work, event.IsViewWork) (hallowed : r.AllowsAll work)
    (hdrained : (r.afterAll work).Drained) :
    ∃ rest, work = .workClosing 0 :: rest := by
  cases work with
  | nil => simp [afterAll, Drained, hclosing] at hdrained
  | cons event rest =>
    obtain ⟨index, rfl, hlt⟩ := exists_workClosing hviews (hwork _ List.mem_cons_self) hallowed.1
    rw [hclosing, List.length_singleton, Nat.lt_one_iff] at hlt
    exact ⟨rest, by rw [hlt]⟩

/-- A view that was told of nothing but that it is closed removes its decorations. -/
theorem work_send_close (host : Host) (hqueue : v.queue = []) :
    (v.send .close).work host =
      ({ sync := (v.on host).dispose.sync }, (v.on host).dispose.host) := by
  obtain ⟨sync, queue⟩ := v
  obtain rfl : queue = [] := hqueue
  rfl

/-- **What closing one of several views comes to**: the view removes its decorations and ends. -/
theorem afterAll_closeView (hdrained : r.Drained) {assembly : Uri} (hv : r.view? assembly = some v)
    (hwork : ∀ event ∈ work, event.IsViewWork) (hallowed : (r.closeView assembly).AllowsAll work)
    (hlater : ((r.closeView assembly).afterAll work).Drained) :
    (r.closeView assembly).afterAll work =
      { r with
        views := r.views.filter (·.assembly != assembly)
        cache := r.cache.dispose v.source
        host := (v.on r.host).dispose.host } := by
  have hqueue : v.queue = [] := hdrained.1 v (mem_of_view? hv).1
  let left := r.views.filter (·.assembly != assembly)
  have hopen : ∀ v ∈ left, v.queue = [] := fun other hother =>
    hdrained.1 other (List.mem_filter.1 hother).1
  let closed : ViewRegistry := { r with
    views := left
    closing := [v.send .close]
    cache := r.cache.dispose v.source }
  let disposed : ViewRegistry := { closed with
    closing := [{ sync := (v.on r.host).dispose.sync }]
    host := (v.on r.host).dispose.host }
  have hclosed : r.closeView assembly = closed := by
    simp only [closeView, hv, hdrained.2, List.nil_append, closed, left]
  have hdisposed : closed.after (.workClosing 0) = disposed := by
    have hne : (v.send .close).queue ≠ [] := by simp [OpenView.send]
    simp only [after, workedClosing, closed, List.getElem?_cons_zero, if_neg hne,
      work_send_close r.host hqueue, List.set_cons_zero, disposed]
  have hended : disposed.after (.workClosing 0) = { disposed with closing := [] } := rfl
  -- the closed view carries out its one command, and ends
  rw [hclosed] at hallowed hlater ⊢
  obtain ⟨rest, rfl⟩ := after_of_closing hopen rfl hwork hallowed hlater
  obtain ⟨-, hallowed⟩ := hallowed
  rw [afterAll, hdisposed] at hlater ⊢
  rw [hdisposed] at hallowed
  have hwork := fun event he => hwork event (List.mem_cons_of_mem _ he)
  obtain ⟨rest, rfl⟩ := after_of_closing hopen rfl hwork hallowed hlater
  obtain ⟨-, hallowed⟩ := hallowed
  rw [afterAll, hended] at hlater ⊢
  rw [hended] at hallowed
  have hnil : { disposed with closing := [] }.Drained := ⟨hopen, rfl⟩
  rw [hnil.work_eq_nil (fun event he => hwork event (List.mem_cons_of_mem _ he)) hallowed]
  show { disposed with closing := [] } = _
  rw [← hdrained.2]

/-- **Closing a view takes from the other views what they share with it.**  In every registry whose
views have carried out all their commands, when a view is closed and has ended, on all editors
exactly those decorations are gone that the closed view had not noted as removed already
(`Synced.Wipes`).  The other views stay as they were, ledgers included.  So such a view still has
what was on one of its editors exactly if that was nothing, or if the editor was none of the closed
view, or if the closed view had put nothing there last. -/
theorem closed_view_wipes (r : ViewRegistry) (base : Screen) (assembly : Uri) (a : OpenView)
    (work : List RegistryEvent) (hdrained : r.Drained) (hd : r.host.Distinct)
    (ha : r.view? assembly = some a) (hwork : ∀ event ∈ work, event.IsViewWork)
    (hallowed : (r.closeView assembly).AllowsAll work)
    (hlater : ((r.closeView assembly).afterAll work).Drained) :
    let t := (r.closeView assembly).afterAll work
    let before := base.drawAll r.host.calls
    let after := base.drawAll t.host.calls
    (∀ id kind, after id kind = if (a.on r.host).Wipes id kind then [] else before id kind) ∧
      ∀ b ∈ r.views, b.assembly ≠ assembly → b ∈ t.views ∧
        (b.on t.host).visible = (b.on r.host).visible ∧
        ∀ e ∈ (b.on t.host).visible.editors, ∀ kind,
          after e.id kind = before e.id kind ↔
            before e.id kind = [] ∨ e ∉ (a.on r.host).visible.editors ∨
              a.sync.ledger.get? (Ledger.slot e kind) = some [] := by
  intro t before after
  have ht : t = { r with
      views := r.views.filter (·.assembly != assembly)
      cache := r.cache.dispose a.source
      host := (a.on r.host).dispose.host } :=
    afterAll_closeView hdrained ha hwork hallowed hlater
  have hscreen : ∀ id kind, after id kind =
      if (a.on r.host).Wipes id kind then [] else before id kind := by
    intro id kind
    have hblanks := Synced.screen_blanks_eq (s := a.on r.host) hd base id kind
    have hafter : after = (a.on r.host).dispose.screen base := by
      show base.drawAll t.host.calls = _
      rw [ht]
      rfl
    rw [hafter, Synced.dispose_eq]
    exact hblanks
  have heditors : t.host.visibleEditors = r.host.visibleEditors := by
    rw [ht, Synced.dispose_eq]
    exact Synced.visibleEditors_putAll
  refine ⟨hscreen, fun b hb hne => ?_⟩
  have hvisible : (b.on t.host).visible = (b.on r.host).visible := by
    rw [Synced.visible, Synced.visible]
    exact congrArg (b.sync.docs.classify · b.sync.unit) heditors
  refine ⟨?_, hvisible, fun e he kind => ?_⟩
  · rw [ht]
    exact List.mem_filter.2 ⟨hb, by simpa using hne⟩
  · rw [hvisible] at he
    have hshown : e ∈ (a.on r.host).host.visibleEditors := (Synced.of_mem_editors he).1
    rw [hscreen]
    exact Synced.wiped_eq_iff hshown

/-! ### Two views of one header -/

instance (h : Host) : Decidable h.Distinct :=
  inferInstanceAs (Decidable (List.Nodup _))

/-- The source `file:///c.c`. -/
def secondSource : Uri :=
  { exampleSource with path := "/c.c".toList }

/-- The assembly view of that source. -/
def secondView : Uri :=
  { exampleView with path := "/c.asm".toList, query := some "source=file%3A%2F%2F%2Fc.c".toList }

/-- A listing of that source, with a line that came from the header. -/
def secondUnit : CompiledUnit :=
  .ofLines secondSource secondView
    [{ text := "nop", source := some { file := .ofText "/c.c", line := 1, column := none } },
      { text := "ret", source := some { file := .ofText "/util.h", line := 1, column := none } }]

/-- A host that shows the first source, the header, and both listings. -/
def sharedHost : Host :=
  Scene.showing
    [{ id := "source", document := exampleSource, lineCount := 3, column := some 1, cursor := 0 },
      { id := "header", document := exampleHeader, lineCount := 2, column := some 3, cursor := 0 },
      { id := "listing", document := exampleView, lineCount := 2, column := some 2, cursor := 0 },
      { id := "other", document := secondView, lineCount := 2, column := some 4, cursor := 0 }]

/-- The views of both sources are opened, both are compiled, and the views carry out what they are
told. -/
def sharedRun : List RegistryEvent :=
  [.openView exampleSource, .openView secondSource, .work 0, .work 1,
    .firstCompile exampleSource, .firstCompile secondSource,
    .cache (.finish (exampleTask 0 0) (.compiled exampleUnit)),
    .cache (.finish { id := 1, key := secondView, source := secondSource, epoch := 1 }
      (.compiled secondUnit)),
    .work 0, .work 1]

/-- The closed view carries out its last command and ends. -/
def closingWork : List RegistryEvent :=
  [.workClosing 0, .workClosing 0]

/-- The first view is closed.  In the header the second view had dimmed the last line and selected
the first one; of these, the first view had selected nothing there, and so only the dimmed line is
gone. -/
theorem shared_header_wiped :
    let r := (initial {} sharedHost 100).afterAll sharedRun
    let t := (r.closeView exampleView).afterAll closingWork
    Screen.blank.drawAll t.host.calls "header" .unused = [] ∧
      Screen.blank.drawAll t.host.calls "header" .selected = [0] := by
  intro r t
  obtain ⟨hdrained, hd, hallowed, hlater, hbefore, a, ha, hunused, hselected⟩ :
      r.Drained ∧ r.host.Distinct ∧ (r.closeView exampleView).AllowsAll closingWork ∧ t.Drained ∧
        Screen.blank.drawAll r.host.calls "header" .selected = [0] ∧
        ∃ a ∈ r.view? exampleView,
          (a.on r.host).Wipes "header" .unused ∧ ¬(a.on r.host).Wipes "header" .selected := by
    decide +kernel
  obtain ⟨hscreen, -⟩ := closed_view_wipes r .blank exampleView a closingWork hdrained hd ha
    (by simp [closingWork, RegistryEvent.IsViewWork]) hallowed hlater
  refine ⟨(hscreen _ _).trans (if_pos hunused), (hscreen _ _).trans ?_⟩
  rw [if_neg hselected]
  exact hbefore

/-- **A mark of an open view that is gone.**  Both views are active and have dimmed the last line of
the header.  When the first view is closed the line is not dimmed any more, and the second view
still has it in its ledger. -/
theorem shared_mark_gone :
    let r := (initial {} sharedHost 100).afterAll sharedRun
    let t := (r.closeView exampleView).afterAll closingWork
    (initial {} sharedHost 100).AllowsAll sharedRun ∧ r.Drained ∧ r.host.Distinct ∧
      (r.closeView exampleView).AllowsAll closingWork ∧ t.Drained ∧
      ∃ b ∈ t.views, b.assembly = secondView ∧ b.sync.phase = .active ∧
        ∃ e ∈ (b.on t.host).visible.sources, e.id = "header" ∧
          b.sync.ledger.get? (Ledger.slot e .unused) = some [1] ∧
          Screen.blank.drawAll r.host.calls e.id .unused = [1] ∧
          Screen.blank.drawAll t.host.calls e.id .unused = [] := by
  decide +kernel

end ViewRegistry

end AsmExplorer
