import AsmExplorer.Data.Value

/-!
# Sorted maps

A list of pairs that is sorted by its keys is a map: setting a key leaves the others as they are
(`lookup_insertSorted`) and keeps the order (`pairwise_insertSorted`).  So every `sortedMap` has its
keys in order, each once, and pairs in that order are a map already (`sortedMap_eq_self`).
-/

namespace AsmExplorer

variable {α : Type} {entries : List (String × α)}

theorem lookup_insertSorted (key wanted : String) (value : α) (entries : List (String × α)) :
    (insertSorted key value entries).lookup wanted =
      if wanted = key then some value else entries.lookup wanted := by
  induction entries with
  | nil =>
    by_cases hwanted : wanted = key
    · simp [insertSorted, hwanted]
    · simp [insertSorted, List.lookup_cons, hwanted, beq_false_of_ne hwanted]
  | cons entry entries ih =>
    obtain ⟨k, v⟩ := entry
    rw [insertSorted]
    by_cases hlt : key < k
    · rw [if_pos hlt, List.lookup_cons]
      by_cases hwanted : wanted = key
      · simp [hwanted]
      · rw [if_neg hwanted, beq_false_of_ne hwanted]
    · rw [if_neg hlt]
      by_cases hk : key = k
      · rw [if_pos hk, List.lookup_cons, List.lookup_cons, hk]
        by_cases hwanted : wanted = k
        · simp [hwanted]
        · rw [if_neg hwanted, beq_false_of_ne hwanted]
      · rw [if_neg hk, List.lookup_cons, List.lookup_cons, ih]
        by_cases hwanted : wanted = k
        · simp [hwanted, Ne.symm hk]
        · rw [beq_false_of_ne hwanted]

theorem mem_keys_insertSorted {key other : String} {value : α}
    (h : other ∈ (insertSorted key value entries).map (·.1)) :
    other = key ∨ other ∈ entries.map (·.1) := by
  induction entries with
  | nil => exact .inl (List.mem_singleton.1 h)
  | cons entry entries ih =>
    rw [insertSorted] at h
    by_cases hlt : key < entry.1
    · rw [if_pos hlt] at h
      exact List.mem_cons.1 h
    · rw [if_neg hlt] at h
      by_cases hk : key = entry.1
      · rw [if_pos hk] at h
        exact (List.mem_cons.1 h).imp_right (List.mem_cons_of_mem _)
      · rw [if_neg hk] at h
        rcases List.mem_cons.1 h with rfl | hmem
        · exact .inr List.mem_cons_self
        · exact (ih hmem).imp_right (List.mem_cons_of_mem _)

theorem pairwise_insertSorted (h : (entries.map (·.1)).Pairwise (· < ·)) (key : String)
    (value : α) :
    ((insertSorted key value entries).map (·.1)).Pairwise (· < ·) := by
  induction entries with
  | nil => exact List.pairwise_singleton _ _
  | cons entry entries ih =>
    obtain ⟨hfirst, hrest⟩ := List.pairwise_cons.1 h
    rw [insertSorted]
    by_cases hlt : key < entry.1
    · rw [if_pos hlt]
      refine List.pairwise_cons.2 ⟨?_, h⟩
      intro other hother
      rcases List.mem_cons.1 hother with rfl | hother
      · exact hlt
      · exact String.lt_trans hlt (hfirst other hother)
    · rw [if_neg hlt]
      by_cases hk : key = entry.1
      · rw [if_pos hk]
        exact List.pairwise_cons.2 ⟨hk ▸ hfirst, hrest⟩
      · rw [if_neg hk]
        refine List.pairwise_cons.2 ⟨?_, ih hrest⟩
        intro other hother
        rcases mem_keys_insertSorted hother with rfl | hother
        · exact Std.lt_of_le_of_ne (String.not_lt.1 hlt) (Ne.symm hk)
        · exact hfirst other hother

theorem pairwise_sortedMap (pairs : List (String × α)) :
    ((sortedMap pairs).map (·.1)).Pairwise (· < ·) := by
  have hfold : ∀ entries : List (String × α), (entries.map (·.1)).Pairwise (· < ·) →
      ((pairs.foldl (fun m e => insertSorted e.1 e.2 m) entries).map (·.1)).Pairwise (· < ·) := by
    induction pairs with
    | nil => exact fun _ hentries => hentries
    | cons pair pairs ih => exact fun _ hentries => ih _ (pairwise_insertSorted hentries _ _)
  exact hfold [] List.Pairwise.nil

theorem insertSorted_eq_concat {key : String} (h : ∀ other ∈ entries.map (·.1), other < key)
    (value : α) : insertSorted key value entries = entries ++ [(key, value)] := by
  induction entries with
  | nil => rfl
  | cons entry entries ih =>
    obtain ⟨hfirst, hrest⟩ := List.forall_mem_cons.1 h
    rw [insertSorted, if_neg (String.lt_asymm hfirst), if_neg (String.ne_of_lt hfirst).symm,
      ih hrest, List.cons_append]

theorem sortedMap_eq_self (h : (entries.map (·.1)).Pairwise (· < ·)) :
    sortedMap entries = entries := by
  have hfold : ∀ before more : List (String × α),
      ((before ++ more).map (·.1)).Pairwise (· < ·) →
        more.foldl (fun m e => insertSorted e.1 e.2 m) before = before ++ more := by
    intro before more hsorted
    induction more generalizing before with
    | nil => exact (List.append_nil before).symm
    | cons entry more ih =>
      -- what is still to come is beyond all that is there
      have hlast : ∀ other ∈ before.map (·.1), other < entry.1 := by
        rw [List.map_append, List.pairwise_append] at hsorted
        exact fun other hother => hsorted.2.2 other hother entry.1 List.mem_cons_self
      rw [List.foldl_cons, insertSorted_eq_concat hlast, ih _ (by simpa using hsorted),
        List.append_assoc, List.singleton_append]
  exact hfold [] entries h

end AsmExplorer
