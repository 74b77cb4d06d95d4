import AsmExplorer.Proofs.View.Puts
import Mathlib.Data.List.Nodup

/-!
# The ledger and the screen

A view asks the host for decorations and notes in its ledger what it asked for; a decoration that
the ledger has is not asked for again.  What the user sees is another matter: the host drops the
decorations of an editor that leaves the screen, and tells the view later or not at all.

* `Screen` : the decorations on the screen, by the names of the editors, and what a request does to
  them.
* `Synced.Honest` : whatever the ledger has is on the screen, or nothing is there.  Putting
  decorations on visible editors keeps this, as long as no two of them have the same document and
  column.  So removing decorations always works.
* `Synced.Exact` : whatever the ledger has for a slot is on the screen.  On such slots the ledger
  cannot be told from none: what is put is what is seen (`Synced.Honest.putAll_spec`).
-/

namespace AsmExplorer

/-! ### Visible editors -/

/-- The document and the column of a visible editor. -/
abbrev Place := Uri × Option UInt8

namespace Host

/-- The place of the editor with a name; none if it is not visible. -/
def place? (h : Host) (id : String) : Option Place :=
  if id ∈ h.visible then (h.editor? id).map fun e => (e.document, e.column) else none

/-- An editor is visible, possibly with another cursor or length. -/
def Shows (h : Host) (e : Editor) : Prop :=
  h.place? e.id = some (e.document, e.column)

/-- No two visible editors stand in the same place. -/
def Distinct (h : Host) : Prop :=
  (h.visibleEditors.map fun e => (e.document, e.column)).Nodup

/-- The names of visible editors are told apart by their places. -/
def Separate (h : Host) : Prop :=
  ∀ id id' p, h.place? id = some p → h.place? id' = some p → id = id'

/-- The visible editors of one host stay visible in another, each in its place. -/
def Keeps (h h' : Host) : Prop :=
  ∀ id, h'.place? id = h.place? id ∨ h.place? id = none

/-- Editors that are visible in both hosts are as long in one as in the other. -/
def SameLengths (h h' : Host) : Prop :=
  ∀ e ∈ h.visibleEditors, ∀ e' ∈ h'.visibleEditors, e'.id = e.id → e'.lineCount = e.lineCount

variable {h h' : Host} {e e' : Editor} {id id' : String} {p : Place}

theorem mem_visibleEditors_iff :
    e ∈ h.visibleEditors ↔ e.id ∈ h.visible ∧ h.editor? e.id = some e := by
  simp only [visibleEditors, List.mem_filterMap]
  constructor
  · rintro ⟨id, hid, he⟩
    have hname : e.id = id := by simpa using List.find?_some he
    exact ⟨hname ▸ hid, hname ▸ he⟩
  · rintro ⟨hid, he⟩
    exact ⟨e.id, hid, he⟩

theorem eq_of_id_eq (he : e ∈ h.visibleEditors) (he' : e' ∈ h.visibleEditors) (hid : e.id = e'.id) :
    e = e' := by
  have hfound := (mem_visibleEditors_iff.1 he).2
  rw [hid, (mem_visibleEditors_iff.1 he').2] at hfound
  exact (Option.some.inj hfound).symm

theorem shows_of_mem (he : e ∈ h.visibleEditors) : h.Shows e := by
  obtain ⟨hid, hfound⟩ := mem_visibleEditors_iff.1 he
  simp [Shows, place?, hid, hfound]

theorem exists_mem_of_place? (hp : h.place? id = some p) :
    ∃ e ∈ h.visibleEditors, e.id = id ∧ (e.document, e.column) = p := by
  unfold place? at hp
  split at hp
  · obtain ⟨e, he, rfl⟩ := Option.map_eq_some_iff.1 hp
    have hname : e.id = id := by simpa using List.find?_some he
    exact ⟨e, mem_visibleEditors_iff.2 (by rw [hname]; exact ⟨‹_›, he⟩), hname, rfl⟩
  · cases hp

/-- Whether an editor comes, leaves the screen, or moves to another place. -/
def moves (before after : Host) : Bool :=
  (before.visible ++ after.visible).any fun id => after.place? id != before.place? id

theorem place?_eq_of_moves (hmoves : h.moves h' = false) : h'.place? = h.place? := by
  funext id
  by_cases hid : id ∈ h.visible ++ h'.visible
  · have hall := List.any_eq_false.1 hmoves id hid
    simpa using hall
  · obtain ⟨hbefore, hafter⟩ := not_or.1 (mt List.mem_append.2 hid)
    rw [place?, place?, if_neg hbefore, if_neg hafter]

theorem Distinct.separate (hd : h.Distinct) : h.Separate := by
  intro id id' p hp hp'
  obtain ⟨e, he, rfl, rfl⟩ := exists_mem_of_place? hp
  obtain ⟨e', he', rfl, hplace⟩ := exists_mem_of_place? hp'
  rw [List.inj_on_of_nodup_map hd he' he hplace]

theorem separate_congr (hplace : h'.place? = h.place?) : h'.Separate ↔ h.Separate := by
  rw [Separate, Separate, hplace]

theorem exists_mem_of_place?_eq (hplace : h'.place? = h.place?) (he : e ∈ h.visibleEditors) :
    ∃ e' ∈ h'.visibleEditors,
      e'.id = e.id ∧ e'.document = e.document ∧ e'.column = e.column := by
  have hshows : h'.place? e.id = some (e.document, e.column) := by
    rw [hplace]
    exact shows_of_mem he
  obtain ⟨e', he', hid, hat⟩ := exists_mem_of_place? hshows
  exact ⟨e', he', hid, congrArg Prod.fst hat, congrArg Prod.snd hat⟩

theorem exists_visible_iff_of_place?_eq (hplace : h'.place? = h.place?) (P : Uri → Prop) :
    (∃ e ∈ h'.visibleEditors, P e.document) ↔ ∃ e ∈ h.visibleEditors, P e.document := by
  constructor
  · rintro ⟨e, he, hP⟩
    obtain ⟨e', he', -, hdocument, -⟩ := exists_mem_of_place?_eq hplace.symm he
    exact ⟨e', he', hdocument ▸ hP⟩
  · rintro ⟨e, he, hP⟩
    obtain ⟨e', he', -, hdocument, -⟩ := exists_mem_of_place?_eq hplace he
    exact ⟨e', he', hdocument ▸ hP⟩

theorem SameLengths.symm (hlengths : h.SameLengths h') : h'.SameLengths h :=
  fun e' he' e he hid => (hlengths e he e' he' hid.symm).symm

theorem Keeps.of_eq (hplace : h'.place? = h.place?) : h.Keeps h' :=
  fun id => .inl (congrFun hplace id)

end Host

/-! ### The screen -/

/-- The decorations on the screen: the lines of each kind on the editor with a name. -/
abbrev Screen := String → DecorationKind → List Nat

namespace Screen

/-- No decorations. -/
def blank : Screen := fun _ _ => []

/-- The lines of a kind on an editor are others. -/
def set (screen : Screen) (id : String) (kind : DecorationKind) (lines : List Nat) : Screen :=
  fun id' kind' => if id' = id ∧ kind' = kind then lines else screen id' kind'

/-- What a request does to the screen. -/
def draw (screen : Screen) : HostCall → Screen
  | .set id kind lines => screen.set id kind lines
  | .reveal _ _ _ | .show _ _ _ | .error _ => screen

/-- What requests do to the screen, of which the latest is the first. -/
def drawAll (screen : Screen) (calls : List HostCall) : Screen :=
  calls.foldr (fun call screen => screen.draw call) screen

/-- The screen with decorations put on it. -/
def putAll (screen : Screen) (puts : List Put) : Screen :=
  puts.foldl (fun screen p => screen.set p.editor.id p.kind p.lines) screen

variable {screen : Screen} {id : String} {kind : DecorationKind} {lines : List Nat}

@[simp] theorem set_self : screen.set id kind lines id kind = lines := by
  simp [set]

theorem set_of_ne {id' : String} {kind' : DecorationKind} (h : ¬(id' = id ∧ kind' = kind)) :
    screen.set id kind lines id' kind' = screen id' kind' := by
  simp only [set, h, if_false]

theorem set_eq_self (h : screen id kind = lines) : screen.set id kind lines = screen := by
  funext id' kind'
  unfold set
  split
  · rename_i heq
    rw [heq.1, heq.2, h]
  · rfl

@[simp] theorem putAll_nil : screen.putAll [] = screen := rfl

@[simp] theorem putAll_cons (p : Put) (puts : List Put) :
    screen.putAll (p :: puts) = (screen.set p.editor.id p.kind p.lines).putAll puts := rfl

theorem putAll_append (puts more : List Put) :
    screen.putAll (puts ++ more) = (screen.putAll puts).putAll more :=
  List.foldl_append

theorem putAll_of_forall_ne {puts : List Put}
    (h : ∀ p ∈ puts, p.kind = kind → p.editor.id ≠ id) :
    screen.putAll puts id kind = screen id kind := by
  induction puts generalizing screen with
  | nil => rfl
  | cons p puts ih =>
    rw [putAll_cons, ih fun q hq => h q (List.mem_cons_of_mem _ hq), set_of_ne]
    rintro ⟨rfl, rfl⟩
    exact h p List.mem_cons_self rfl rfl

/-- What is put on in one way only is there. -/
theorem putAll_of_forall_eq {puts : List Put}
    (h : ∀ p ∈ puts, p.kind = kind → p.editor.id = id → p.lines = lines)
    (hex : screen id kind = lines ∨ ∃ p ∈ puts, p.kind = kind ∧ p.editor.id = id) :
    screen.putAll puts id kind = lines := by
  induction puts generalizing screen with
  | nil => simpa using hex
  | cons p puts ih =>
    rw [putAll_cons]
    refine ih (fun q hq => h q (List.mem_cons_of_mem _ hq)) ?_
    by_cases hp : p.kind = kind ∧ p.editor.id = id
    · obtain ⟨rfl, rfl⟩ := hp
      exact .inl (by rw [set_self, h p List.mem_cons_self rfl rfl])
    · rw [set_of_ne fun heq => hp ⟨heq.2.symm, heq.1.symm⟩]
      refine hex.imp_right ?_
      rintro ⟨q, hq, hkind, hid⟩
      obtain rfl | hq := List.mem_cons.1 hq
      · exact absurd ⟨hkind, hid⟩ hp
      · exact ⟨q, hq, hkind, hid⟩

theorem exists_of_putAll_blank_ne {puts : List Put} (h : blank.putAll puts id kind ≠ []) :
    ∃ p ∈ puts, p.kind = kind ∧ p.editor.id = id ∧ p.lines ≠ [] := by
  by_contra hnone
  refine h (putAll_of_forall_eq (fun p hp hkind hid => ?_) (.inl rfl))
  by_contra hlines
  exact hnone ⟨p, hp, hkind, hid, hlines⟩

theorem putAll_blanks {v : VisibleSet} {e : Editor} (he : e ∈ v.editors) :
    screen.putAll v.blanks e.id kind = [] := by
  refine putAll_of_forall_eq (fun p hp _ _ => (VisibleSet.mem_blanks_iff.1 hp).2) (.inr ?_)
  exact ⟨⟨e, kind, []⟩, VisibleSet.mem_blanks_iff.2 ⟨he, rfl⟩, rfl, rfl⟩

end Screen

/-! ### The ledger -/

namespace Ledger

theorem lookup_filter_ne {slot slot' : DecorationSlot} (h : slot' ≠ slot)
    (applied : List (DecorationSlot × List Nat)) :
    (applied.filter (·.1 != slot)).lookup slot' = applied.lookup slot' := by
  induction applied with
  | nil => rfl
  | cons entry applied ih =>
    obtain ⟨noted, lines⟩ := entry
    by_cases hslot : noted = slot
    · subst hslot
      simp [ih, List.lookup_cons, beq_false_of_ne h]
    · simp [hslot, ih, List.lookup_cons]

theorem get?_put (l : Ledger) (slot slot' : DecorationSlot) (lines : List Nat) :
    (l.put slot lines).get? slot' = if slot' = slot then some lines else l.get? slot' := by
  unfold get? put
  rw [List.lookup_cons]
  by_cases h : slot' = slot
  · simp [h]
  · simp [h, beq_false_of_ne h, lookup_filter_ne h]

end Ledger

namespace Synced

variable {base : Screen} {s : Synced} {e e' : Editor} {kind kind' : DecorationKind}
  {lines : List Nat} {puts : List Put}

/-- The screen, if it was `base` before the requests that the host has noted. -/
def screen (base : Screen) (s : Synced) : Screen :=
  base.drawAll s.host.calls

/-- The screen has what the ledger has for a slot. -/
def Exact (base : Screen) (s : Synced) (e : Editor) (kind : DecorationKind) : Prop :=
  ∀ lines, s.sync.ledger.get? (Ledger.slot e kind) = some lines → s.screen base e.id kind = lines

/-- What the ledger has is on the screen, or nothing is there; on an editor that is not visible
there is nothing. -/
structure Honest (base : Screen) (s : Synced) : Prop where
  /-- What the ledger has is on the screen, or nothing is there. -/
  noted : ∀ e kind lines, s.host.Shows e →
    s.sync.ledger.get? (Ledger.slot e kind) = some lines →
      s.screen base e.id kind = [] ∨ s.screen base e.id kind = lines
  /-- What is decorated is visible. -/
  visible : ∀ id kind, s.screen base id kind ≠ [] → (s.host.place? id).isSome

/-! ### One decoration -/

theorem screen_apply : (s.apply e kind lines).screen base =
    if s.sync.ledger.get? (Ledger.slot e kind) = some lines then s.screen base
    else (s.screen base).set e.id kind lines := by
  unfold apply
  split <;> rfl

@[simp] theorem place?_apply : (s.apply e kind lines).host.place? = s.host.place? :=
  congrArg (·.host.place?) (rest_apply kind lines)

theorem get?_apply (slot : DecorationSlot) :
    (s.apply e kind lines).sync.ledger.get? slot =
      if slot = Ledger.slot e kind then some lines else s.sync.ledger.get? slot := by
  unfold apply
  split
  · rename_i h
    split
    · rename_i heq
      rw [heq, h]
    · rfl
  · exact Ledger.get?_put _ _ _ _

theorem id_eq_of_slot_eq (hd : s.host.Separate) (he : s.host.Shows e) (he' : s.host.Shows e')
    (h : Ledger.slot e kind = Ledger.slot e' kind') : e.id = e'.id ∧ kind = kind' := by
  obtain ⟨hdoc, hcol, hkind⟩ := by simpa [Ledger.slot] using h
  refine ⟨hd _ _ _ he ?_, hkind⟩
  rw [hdoc, hcol]
  exact he'

theorem Honest.apply (h : s.Honest base) (hd : s.host.Distinct) (he : s.host.Shows e) :
    (s.apply e kind lines).Honest base := by
  constructor
  · intro e' kind' noted he' hnoted
    rw [Host.Shows, place?_apply] at he'
    rw [get?_apply] at hnoted
    rw [screen_apply]
    split at hnoted
    · rename_i hslot
      obtain ⟨hid, rfl⟩ := id_eq_of_slot_eq hd.separate he' he hslot
      obtain rfl := Option.some.inj hnoted
      split
      · exact h.noted e' kind' lines he' (hslot ▸ ‹_›)
      · exact .inr (by rw [hid, Screen.set_self])
    · rename_i hslot
      split
      · exact h.noted e' kind' noted he' hnoted
      · -- the editor is another, or the kind is
        rw [Screen.set_of_ne]
        · exact h.noted e' kind' noted he' hnoted
        · rintro ⟨hid, rfl⟩
          rw [hid] at he'
          obtain ⟨hdoc, hcol⟩ := Prod.mk.inj (Option.some.inj (he'.symm.trans he))
          exact hslot (by rw [Ledger.slot, Ledger.slot, hdoc, hcol])
  · intro id kind' hne
    rw [place?_apply]
    rw [screen_apply] at hne
    split at hne
    · exact h.visible id kind' hne
    · by_cases hid : id = e.id
      · rw [hid, he]
        rfl
      · rw [Screen.set_of_ne fun heq => hid heq.1] at hne
        exact h.visible id kind' hne

/-- Decorations that the ledger can be trusted with are put on the screen; and it can be trusted
when they are removed. -/
theorem Honest.screen_apply (h : s.Honest base) (he : s.host.Shows e)
    (hready : lines = [] ∨ s.Exact base e kind) :
    (s.apply e kind lines).screen base = (s.screen base).set e.id kind lines := by
  rw [Synced.screen_apply]
  split
  · rename_i hnoted
    refine (Screen.set_eq_self ?_).symm
    obtain rfl | hexact := hready
    · exact (h.noted e kind [] he hnoted).elim id id
    · exact hexact lines hnoted
  · rfl

/-- After decorations were put on the screen the ledger is right about their slot, and about every
other slot as before. -/
theorem Honest.exact_apply (h : s.Honest base) (hd : s.host.Distinct) (he : s.host.Shows e)
    (hready : lines = [] ∨ s.Exact base e kind) (he' : s.host.Shows e')
    (hexact : s.Exact base e' kind' ∨ e' = e ∧ kind' = kind) :
    (s.apply e kind lines).Exact base e' kind' := by
  intro noted hnoted
  rw [get?_apply] at hnoted
  rw [h.screen_apply he hready]
  split at hnoted
  · rename_i hslot
    obtain ⟨hid, rfl⟩ := id_eq_of_slot_eq hd.separate he' he hslot
    rw [hid, Screen.set_self]
    exact Option.some.inj hnoted
  · rename_i hslot
    rw [Screen.set_of_ne]
    · refine (hexact.resolve_right ?_) noted hnoted
      rintro ⟨rfl, rfl⟩
      exact hslot rfl
    · rintro ⟨hid, rfl⟩
      rw [Host.Shows, hid] at he'
      obtain ⟨hdoc, hcol⟩ := Prod.mk.inj (Option.some.inj (he'.symm.trans he))
      exact hslot (by rw [Ledger.slot, Ledger.slot, hdoc, hcol])

/-! ### Many decorations -/

@[simp] theorem place?_putAll : (s.putAll puts).host.place? = s.host.place? :=
  congrArg (·.host.place?) (rest_putAll puts)

@[simp] theorem visibleEditors_putAll :
    (s.putAll puts).host.visibleEditors = s.host.visibleEditors :=
  congrArg (·.host.visibleEditors) (rest_putAll puts)

/-- What is on the screen was there before, or was put there. -/
theorem screen_putAll_cases (base : Screen) (id : String) (kind : DecorationKind) :
    (s.putAll puts).screen base id kind = s.screen base id kind ∨
      ∃ p ∈ puts, p.editor.id = id ∧ p.kind = kind ∧
        (s.putAll puts).screen base id kind = p.lines := by
  induction puts generalizing s with
  | nil => exact .inl rfl
  | cons p puts ih =>
    rw [putAll_cons]
    obtain hsame | ⟨q, hq, hid, hkind, hlines⟩ := ih (s := s.apply p.editor p.kind p.lines)
    · rw [hsame, screen_apply]
      split
      · exact .inl rfl
      · by_cases hp : id = p.editor.id ∧ kind = p.kind
        · obtain ⟨rfl, rfl⟩ := hp
          exact .inr ⟨p, List.mem_cons_self, rfl, rfl, Screen.set_self⟩
        · exact .inl (Screen.set_of_ne hp)
    · exact .inr ⟨q, List.mem_cons_of_mem _ hq, hid, hkind, hlines⟩

/-- What the ledger has for a slot that is put in one way only. -/
theorem get?_putAll_of_forall_eq {slot : DecorationSlot} {lines : List Nat}
    (h : ∀ p ∈ puts, slot = Ledger.slot p.editor p.kind → p.lines = lines)
    (hex : s.sync.ledger.get? slot = some lines ∨
      ∃ p ∈ puts, slot = Ledger.slot p.editor p.kind) :
    (s.putAll puts).sync.ledger.get? slot = some lines := by
  induction puts generalizing s with
  | nil => simpa using hex
  | cons p puts ih =>
    rw [putAll_cons]
    refine ih (fun q hq => h q (List.mem_cons_of_mem _ hq)) ?_
    rw [get?_apply]
    by_cases hslot : slot = Ledger.slot p.editor p.kind
    · exact .inl (by rw [if_pos hslot, h p List.mem_cons_self hslot])
    · rw [if_neg hslot]
      refine hex.imp_right ?_
      rintro ⟨q, hq, heq⟩
      obtain rfl | hq := List.mem_cons.1 hq
      · exact absurd heq hslot
      · exact ⟨q, hq, heq⟩

theorem get?_putAll_of_forall_ne {slot : DecorationSlot}
    (h : ∀ p ∈ puts, slot ≠ Ledger.slot p.editor p.kind) :
    (s.putAll puts).sync.ledger.get? slot = s.sync.ledger.get? slot := by
  induction puts generalizing s with
  | nil => rfl
  | cons p puts ih =>
    rw [putAll_cons, ih fun q hq => h q (List.mem_cons_of_mem _ hq), get?_apply,
      if_neg (h p List.mem_cons_self)]

theorem separate_apply (hd : s.host.Separate) : (s.apply e kind lines).host.Separate :=
  (Host.separate_congr place?_apply).2 hd

theorem distinct_apply (hd : s.host.Distinct) : (s.apply e kind lines).host.Distinct := by
  have hrest := congrArg (·.host.visibleEditors) (rest_apply (s := s) (e := e) kind lines)
  unfold Host.Distinct at hd ⊢
  rwa [show (s.apply e kind lines).host.visibleEditors = s.host.visibleEditors from hrest]

theorem Honest.putAll (h : s.Honest base) (hd : s.host.Distinct)
    (hshows : ∀ p ∈ puts, s.host.Shows p.editor) : (s.putAll puts).Honest base := by
  induction puts generalizing s with
  | nil => exact h
  | cons p puts ih =>
    have hp := hshows p List.mem_cons_self
    refine ih (h.apply hd hp) (distinct_apply hd) fun q hq => ?_
    rw [Host.Shows, place?_apply]
    exact hshows q (List.mem_cons_of_mem _ hq)

/-- **What is put is what is seen.** Decorations on visible editors are put on the screen as if
there were no ledger, if they are empty or the ledger is right about their slots; and then the
ledger is right about these slots, and about every other as before. -/
theorem Honest.putAll_spec (h : s.Honest base) (hd : s.host.Distinct)
    (hshows : ∀ p ∈ puts, s.host.Shows p.editor)
    (hready : ∀ p ∈ puts, p.lines = [] ∨ s.Exact base p.editor p.kind) :
    (s.putAll puts).screen base = (s.screen base).putAll puts ∧
      ∀ e kind, s.host.Shows e →
        (s.Exact base e kind ∨ ∃ p ∈ puts, p.editor = e ∧ p.kind = kind) →
          (s.putAll puts).Exact base e kind := by
  induction puts generalizing s with
  | nil => exact ⟨rfl, fun e kind _ hexact => hexact.resolve_right (by simp)⟩
  | cons p puts ih =>
    have hp := hshows p List.mem_cons_self
    have hpready := hready p List.mem_cons_self
    have hshows' : ∀ e, s.host.Shows e → (s.apply p.editor p.kind p.lines).host.Shows e := by
      intro e he
      rwa [Host.Shows, place?_apply]
    have hexact' : ∀ e kind, s.host.Shows e →
        (s.Exact base e kind ∨ e = p.editor ∧ kind = p.kind) →
          (s.apply p.editor p.kind p.lines).Exact base e kind :=
      fun e kind he hexact => h.exact_apply hd hp hpready he hexact
    obtain ⟨hscreen, hexact⟩ := ih (h.apply hd hp) (distinct_apply hd)
      (fun q hq => hshows' _ (hshows q (List.mem_cons_of_mem _ hq)))
      (fun q hq => (hready q (List.mem_cons_of_mem _ hq)).imp_right fun hq' =>
        hexact' _ _ (hshows q (List.mem_cons_of_mem _ hq)) (.inl hq'))
    refine ⟨?_, fun e kind he hor => hexact e kind (hshows' e he) ?_⟩
    · rw [putAll_cons, hscreen, h.screen_apply hp hpready, Screen.putAll_cons]
    · obtain hor | ⟨q, hq, rfl, rfl⟩ := hor
      · exact .inl (hexact' e kind he (.inl hor))
      · obtain rfl | hq := List.mem_cons.1 hq
        · exact .inl (hexact' _ _ he (.inr ⟨rfl, rfl⟩))
        · exact .inr ⟨q, hq, rfl, rfl⟩

end Synced

end AsmExplorer
