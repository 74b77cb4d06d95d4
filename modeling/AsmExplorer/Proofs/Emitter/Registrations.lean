import AsmExplorer.Emitter
import Mathlib.Data.List.Nodup

/-!
# What is registered is what is held

An emitter numbers its listeners in the order in which they are registered, and who holds the number
can release the listener.  A program holds the numbers by name in its table, and without a name in
its group.  `State.Exact` says that the two sides agree: of all listeners that were ever registered,
those are still registered whose numbers are held, in the order in which they were registered.

Every step of a program other than firing keeps that (`State.Exact.step`).  Firing is not one step
but many, which `AsmExplorer.Proofs.Emitter.Moments` takes apart.
-/

namespace AsmExplorer.Emitter.Program

/-- A registration: its serial number and its listener. -/
abbrev Registration := Nat × Listener

/-- The registrations of listeners, in the order in which they were registered. -/
def numbered (listeners : List Listener) : List Registration :=
  listeners.zipIdx.map Prod.swap

/-- The listeners that a step registers. -/
def Step.registers : Step → List Listener
  | .subscribe listener => [listener]
  | _ => []

namespace State

/-- The registrations of the emitter; none once it is dropped. -/
def registrations (s : State) : List Registration :=
  (s.emitter.map Emitter.entries).getD []

/-- The serial numbers that are held. -/
def held (s : State) : List Nat :=
  s.table.map (·.2) ++ s.group

/-- What is registered and what is held agree, after the given listeners were registered. -/
structure Exact (s : State) (listeners : List Listener) : Prop where
  /-- A name is held once. -/
  names : (s.table.map (·.1)).Nodup
  /-- A number is held once. -/
  held : s.held.Nodup
  /-- The numbers that are held were given out. -/
  given : ∀ n ∈ s.held, n < listeners.length
  /-- The next number is the number of listeners registered before. -/
  next : ∀ e, s.emitter = some e → e.next = listeners.length
  /-- The listeners whose numbers are held are registered, and no others are. -/
  entries : ∀ e, s.emitter = some e →
    e.entries = (numbered listeners).filter fun r => s.held.contains r.1

variable {s s' : State} {e : Emitter Listener} {ls : List Listener} {n serial : Nat} {id : String}

/-! ### Numbers -/

theorem numbered_append_singleton (ls : List Listener) (l : Listener) :
    numbered (ls ++ [l]) = numbered ls ++ [(ls.length, l)] := by
  simp [numbered, List.zipIdx_append]

theorem map_fst_numbered (ls : List Listener) :
    (numbered ls).map (·.1) = List.range ls.length := by
  rw [numbered, List.map_map, List.range_eq_range', ← List.zipIdx_map_snd 0 ls]
  rfl

theorem lt_of_mem_numbered {r : Registration} (h : r ∈ numbered ls) : r.1 < ls.length := by
  have hmem := List.mem_map_of_mem (f := Prod.fst) h
  rw [map_fst_numbered] at hmem
  exact List.mem_range.1 hmem

/-! ### Names -/

/-- A name that is held once stands for one number. -/
theorem perm_of_lookup {table : List (String × Nat)} (hnames : (table.map (·.1)).Nodup)
    (h : table.lookup id = some serial) :
    (table.map (·.2)).Perm (serial :: (table.filter (·.1 != id)).map (·.2)) := by
  induction table with
  | nil => cases h
  | cons p table ih =>
    obtain ⟨name, number⟩ := p
    rw [List.map_cons, List.nodup_cons] at hnames
    rw [List.lookup_cons] at h
    by_cases hid : id = name
    · subst hid
      rw [beq_self_eq_true, Option.some.injEq] at h
      have hothers : table.filter (·.1 != id) = table := by
        refine List.filter_eq_self.2 fun q hq => ?_
        have hne : q.1 ≠ id := fun heq => hnames.1 (List.mem_map.2 ⟨q, hq, heq⟩)
        simpa using hne
      simp [hothers, h]
    · rw [beq_eq_false_iff_ne.2 hid] at h
      have hname : ((name, number) :: table).filter (·.1 != id) =
          (name, number) :: table.filter (·.1 != id) :=
        List.filter_cons_of_pos (by simpa using Ne.symm hid)
      rw [hname, List.map_cons, List.map_cons]
      exact ((ih hnames.2 h).cons number).trans (.swap _ _ _)

theorem nodup_names_filter {table : List (String × Nat)} (h : (table.map (·.1)).Nodup)
    (p : String × Nat → Bool) : ((table.filter p).map (·.1)).Nodup :=
  h.sublist (List.filter_sublist.map _)

/-- Taking a name out of the table takes one number out of those that are held. -/
theorem perm_held_of_lookup (hnames : (s.table.map (·.1)).Nodup)
    (h : s.table.lookup id = some serial) :
    s.held.Perm (serial :: { s with table := s.table.filter (·.1 != id) }.held) :=
  (perm_of_lookup hnames h).append_right _

/-! ### Releasing -/

/-- Of numbers held once, those that stay are the ones that are registered after the others are
released. -/
theorem filter_entries {held held' : List Nat} {p : Nat → Bool} {entries : List Registration}
    (h : entries = (numbered ls).filter fun r => held.contains r.1)
    (hheld : ∀ n, n ∈ held' ↔ n ∈ held ∧ p n = true) :
    (entries.filter fun r => p r.1) = (numbered ls).filter fun r => held'.contains r.1 := by
  rw [h, List.filter_filter]
  refine List.filter_congr fun r _ => ?_
  rw [Bool.eq_iff_iff, Bool.and_eq_true, List.contains_iff_mem, List.contains_iff_mem, hheld,
    and_comm]

theorem foldl_release (s : State) (numbers : List Nat) :
    numbers.foldl release s =
      { s with
        emitter := s.emitter.map fun e =>
          { e with entries := e.entries.filter fun r => !numbers.contains r.1 } } := by
  induction numbers generalizing s with
  | nil =>
    cases he : s.emitter <;> simp [← he]
  | cons number numbers ih =>
    rw [List.foldl_cons, ih]
    cases he : s.emitter with
    | none => simp [release, he]
    | some e =>
      simp only [release, he, Option.map_some, Emitter.release, List.filter_filter]
      congr 3
      refine List.filter_congr fun r _ => ?_
      rw [List.contains_cons, Bool.not_or, Bool.and_comm, bne]

/-! ### Steps -/

theorem exact_initial : ({} : State).Exact [] := by
  refine ⟨List.nodup_nil, List.nodup_nil, fun n hn => absurd hn List.not_mem_nil, ?_, ?_⟩
  · rintro e ⟨⟩
    rfl
  · rintro e ⟨⟩
    rfl

theorem Exact.of_dropped (h : s.Exact ls) (hemitter : s.emitter = none) (more : List Listener) :
    s.Exact (ls ++ more) where
  names := h.names
  held := h.held
  given n hn := by
    have := h.given n hn
    rw [List.length_append]
    omega
  next e he := by rw [hemitter] at he; cases he
  entries e he := by rw [hemitter] at he; cases he

theorem Exact.withLog (h : s.Exact ls) (log : List (String × Int)) : { s with log }.Exact ls :=
  ⟨h.names, h.held, h.given, h.next, h.entries⟩

theorem Exact.of_perm (h : s.Exact ls) (hnames : (s'.table.map (·.1)).Nodup)
    (hheld : s.held.Perm s'.held) (hemitter : s'.emitter = s.emitter) : s'.Exact ls where
  names := hnames
  held := hheld.nodup_iff.1 h.held
  given n hn := h.given n (hheld.mem_iff.2 hn)
  next e he := h.next e (hemitter ▸ he)
  entries e he := by
    rw [h.entries e (hemitter ▸ he)]
    refine List.filter_congr fun r _ => ?_
    rw [Bool.eq_iff_iff, List.contains_iff_mem, List.contains_iff_mem, hheld.mem_iff]

theorem Exact.release (h : s.Exact ls) (hnames : (s'.table.map (·.1)).Nodup)
    (hheld : s.held.Perm (serial :: s'.held)) (hemitter : s'.emitter = s.emitter) :
    (s'.release serial).Exact ls := by
  obtain ⟨hserial, hnodup⟩ := List.nodup_cons.1 (hheld.nodup_iff.1 h.held)
  have hmem : ∀ n, n ∈ s'.held ↔ n ∈ s.held ∧ (n != serial) = true := by
    intro n
    rw [hheld.mem_iff, List.mem_cons, bne_iff_ne]
    refine ⟨fun hn => ⟨.inr hn, ?_⟩, fun ⟨hn, hne⟩ => hn.resolve_left hne⟩
    rintro rfl
    exact hserial hn
  refine ⟨hnames, hnodup, fun n hn => h.given n ((hmem n).1 hn).1, ?_, ?_⟩
  · intro e he
    obtain ⟨e₀, he₀, rfl⟩ := Option.map_eq_some_iff.1 he
    exact h.next e₀ (hemitter ▸ he₀)
  · intro e he
    obtain ⟨e₀, he₀, rfl⟩ := Option.map_eq_some_iff.1 he
    exact filter_entries (h.entries e₀ (hemitter ▸ he₀)) hmem

theorem table_drop (s : State) (id : String) :
    (s.drop id).table = s.table.filter (·.1 != id) := by
  unfold State.drop
  split
  · rename_i hlookup
    refine (List.filter_eq_self.2 fun p hp => ?_).symm
    have hne : id ≠ p.1 := by simpa using List.lookup_eq_none_iff.1 hlookup p hp
    exact bne_iff_ne.2 hne.symm
  · rfl

theorem Exact.drop (h : s.Exact ls) (id : String) : (s.drop id).Exact ls := by
  unfold State.drop
  split
  · exact h
  · rename_i serial hlookup
    exact h.release (nodup_names_filter h.names _) (perm_held_of_lookup h.names hlookup) rfl

/-- Registers a listener under a name that is free. -/
def enlist (s : State) (e : Emitter Listener) (l : Listener) : State :=
  { s with emitter := some (e.subscribe l).1, table := (l.id, e.next) :: s.table }

theorem Exact.enlist {l : Listener} (h : s.Exact ls) (he : s.emitter = some e)
    (hfree : l.id ∉ s.table.map (·.1)) : (s.enlist e l).Exact (ls ++ [l]) := by
  have hnext := h.next e he
  have hfresh : e.next ∉ s.held := fun hmem => by
    have := h.given _ hmem
    omega
  refine ⟨List.nodup_cons.2 ⟨hfree, h.names⟩, List.nodup_cons.2 ⟨hfresh, h.held⟩, ?_, ?_, ?_⟩
  · intro n hn
    rw [List.length_append, List.length_singleton]
    obtain rfl | hn := List.mem_cons.1 hn
    · exact Nat.lt_succ_of_le (Nat.le_of_eq hnext)
    · exact Nat.lt_succ_of_lt (h.given n hn)
  · rintro e' ⟨⟩
    simp [Emitter.subscribe, hnext]
  · rintro e' ⟨⟩
    -- the number given out is that of the new listener, and held from now on
    have hold : ∀ r ∈ numbered ls, (s.enlist e l).held.contains r.1 = s.held.contains r.1 := by
      intro r hr
      have hne : r.1 ≠ e.next := by
        have := lt_of_mem_numbered hr
        omega
      simp [State.enlist, State.held, hne]
    have hnew : (s.enlist e l).held.contains ls.length = true := by
      simp [State.enlist, State.held, hnext]
    rw [numbered_append_singleton, List.filter_append, List.filter_congr hold,
      List.filter_cons_of_pos (a := (ls.length, l)) hnew, ← h.entries e he, ← hnext]
    rfl

/-- What a name stood for is released once the name stands for the new listener; it might as well be
released before. -/
theorem Exact.subscribe_eq (h : s.Exact ls) (he : s.emitter = some e) (l : Listener) :
    ∃ e', (s.drop l.id).emitter = some e' ∧ s.subscribe l = (s.drop l.id).enlist e' l := by
  have htable := table_drop s l.id
  cases hlookup : s.table.lookup l.id with
  | none =>
    have hdrop : s.drop l.id = s := by simp only [State.drop, hlookup]
    rw [hdrop] at htable ⊢
    refine ⟨e, he, ?_⟩
    simp only [State.subscribe, State.enlist, Emitter.subscribe, he, hlookup, ← htable]
  | some old =>
    have hlt : old < e.next := by
      rw [h.next e he]
      refine h.given old (List.mem_append_left _ ?_)
      exact (perm_of_lookup h.names hlookup).mem_iff.2 List.mem_cons_self
    have hne : (e.next != old) = true := bne_iff_ne.2 (by omega)
    refine ⟨e.release old, ?_, ?_⟩
    · simp only [State.drop, State.release, hlookup, he, Option.map_some]
    · simp [State.subscribe, State.drop, State.enlist, State.release, Emitter.subscribe,
        Emitter.release, he, hlookup, List.filter_append, hne]

theorem Exact.subscribe (h : s.Exact ls) (l : Listener) : (s.subscribe l).Exact (ls ++ [l]) := by
  cases he : s.emitter with
  | none =>
    have hsame : s.subscribe l = s := by simp only [State.subscribe, he]
    rw [hsame]
    exact h.of_dropped he [l]
  | some e =>
    obtain ⟨e', he', heq⟩ := h.subscribe_eq he l
    rw [heq]
    refine (h.drop l.id).enlist he' ?_
    simp [table_drop]

theorem Exact.moveToGroup (h : s.Exact ls) (ids : List String) : (s.moveToGroup ids).Exact ls := by
  unfold State.moveToGroup
  induction ids generalizing s with
  | nil => exact h
  | cons id ids ih =>
    rw [List.foldl_cons]
    refine ih ?_
    split
    · exact h
    · rename_i serial hlookup
      refine h.of_perm (nodup_names_filter h.names _) ?_ rfl
      refine (perm_held_of_lookup h.names hlookup).trans ?_
      simp only [State.held]
      rw [← List.cons_append, ← List.append_assoc]
      exact List.perm_append_singleton _ _ |>.symm

theorem disposeGroup_eq (s : State) :
    s.disposeGroup =
      { s with
        emitter := s.emitter.map fun e =>
          { e with entries := e.entries.filter fun r => !s.group.contains r.1 }
        group := [] } := by
  rw [disposeGroup, foldl_release]

theorem Exact.disposeGroup (h : s.Exact ls) : s.disposeGroup.Exact ls := by
  obtain ⟨hnodup, -, hdisjoint⟩ := List.nodup_append'.1 h.held
  have hheld : s.disposeGroup.held = s.table.map (·.2) := by
    rw [disposeGroup_eq]
    exact List.append_nil _
  have hmem : ∀ n, n ∈ s.disposeGroup.held ↔ n ∈ s.held ∧ (!s.group.contains n) = true := by
    intro n
    rw [hheld, State.held, List.mem_append, Bool.not_eq_true', ← Bool.not_eq_true,
      List.contains_iff_mem]
    exact ⟨fun hn => ⟨.inl hn, hdisjoint hn⟩, fun ⟨hn, hgroup⟩ => hn.resolve_right hgroup⟩
  refine ⟨?_, hheld ▸ hnodup, fun n hn => h.given n ((hmem n).1 hn).1, ?_, ?_⟩
  · rw [disposeGroup_eq]
    exact h.names
  · intro e he
    rw [disposeGroup_eq] at he
    obtain ⟨e₀, he₀, rfl⟩ := Option.map_eq_some_iff.1 he
    exact h.next e₀ he₀
  · intro e he
    rw [disposeGroup_eq] at he
    obtain ⟨e₀, he₀, rfl⟩ := Option.map_eq_some_iff.1 he
    exact filter_entries (h.entries e₀ he₀) hmem

theorem Exact.dropEmitter (h : s.Exact ls) : s.dropEmitter.Exact ls where
  names := h.names
  held := h.held
  given := h.given
  next e he := by cases he
  entries e he := by cases he

/-- **Every step but a fire keeps what is registered and what is held together.** -/
theorem Exact.step (h : s.Exact ls) {a : Step} (ha : ∀ value, a ≠ .fire value) :
    (step s a).Exact (ls ++ a.registers) := by
  have hlog := h.withLog []
  cases a with
  | subscribe l => exact hlog.subscribe l
  | drop id => exact (List.append_nil ls).symm ▸ hlog.drop id
  | group ids => exact (List.append_nil ls).symm ▸ hlog.moveToGroup ids
  | disposeGroup | replaceGroup => exact (List.append_nil ls).symm ▸ hlog.disposeGroup
  | fire value => exact absurd rfl (ha value)
  | dropEmitter => exact (List.append_nil ls).symm ▸ hlog.dropEmitter

end State

end AsmExplorer.Emitter.Program
