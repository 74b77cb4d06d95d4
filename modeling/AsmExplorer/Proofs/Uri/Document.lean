import AsmExplorer.Proofs.Text.Percent
import AsmExplorer.Uri.Document

/-!
# Different sources have different assembly views

The path of an assembly view does not tell sources apart: `/a.c` and `/a.cc` share one.  What does
is the query, whose last pair holds the whole written form of the source.  So two sources with one
view have the same written form (`chars_eq_of_assemblyUri_eq`).
-/

namespace AsmExplorer

/-- The pair of a query that holds a source. -/
def sourcePair (source : Uri) : List Char :=
  Text.formEncode sourceKey ++ '=' :: Text.formEncode source.chars

theorem ampersand_not_mem_sourcePair (source : Uri) : '&' ∉ sourcePair source := by
  intro h
  obtain h | h := List.mem_append.1 h
  · exact Text.ampersand_not_mem_formEncode _ h
  · obtain h | h := List.mem_cons.1 h
    · exact absurd h (by decide)
    · exact Text.ampersand_not_mem_formEncode _ h

theorem appendPair_eq (query : Option (List Char)) (source : Uri) :
    ∃ front, appendPair query sourceKey source.chars = front ++ sourcePair source ∧
      (front = [] ∨ front.getLast? = some '&') := by
  unfold appendPair
  cases query with
  | none => exact ⟨[], rfl, .inl rfl⟩
  | some q =>
    dsimp only
    split
    · exact ⟨[], rfl, .inl rfl⟩
    · exact ⟨q ++ ['&'], by simp [sourcePair], .inr (by simp)⟩

/-- Of a text that is divided at ampersands, the last part is determined. -/
theorem last_eq_of_append_eq {front front' last last' : List Char}
    (h : front ++ last = front' ++ last') (hlast : '&' ∉ last)
    (hfront' : front' = [] ∨ front'.getLast? = some '&') (hle : front.length ≤ front'.length) :
    last = last' := by
  obtain ⟨middle, rfl, hmiddle⟩ | ⟨middle, rfl, hmiddle⟩ := List.append_eq_append_iff.1 h
  · -- what the longer front has more would be part of the last part of the other text
    obtain hnil | hamp := hfront'
    · obtain ⟨-, rfl⟩ := List.append_eq_nil_iff.1 hnil
      simpa using hmiddle
    · cases middle with
      | nil => simpa using hmiddle
      | cons c middle =>
        have hmem : '&' ∈ c :: middle := by
          refine List.mem_of_getLast? ?_
          simpa using hamp
        exact absurd (hmiddle ▸ List.mem_append_left _ hmem) hlast
  · have hnil : middle = [] := by
      rw [List.length_append] at hle
      exact List.length_eq_zero_iff.1 (by omega)
    simpa [hnil] using hmiddle.symm

theorem exists_query_of_assemblyUri {source key : Uri} (h : assemblyUri source = .ok key) :
    ∃ query, key.query = some (appendPair query sourceKey source.chars) := by
  unfold assemblyUri at h
  dsimp only at h
  split at h
  · cases h
  · rename_i u _
    exact ⟨u.query, by rw [← Except.ok.inj h]⟩

/-- **Sources with one assembly view have one written form.** -/
theorem chars_eq_of_assemblyUri_eq {source other key : Uri} (h : assemblyUri source = .ok key)
    (h' : assemblyUri other = .ok key) : source.chars = other.chars := by
  obtain ⟨query, hkey⟩ := exists_query_of_assemblyUri h
  obtain ⟨query', hkey'⟩ := exists_query_of_assemblyUri h'
  obtain ⟨front, hpair, hfront⟩ := appendPair_eq query source
  obtain ⟨front', hpair', hfront'⟩ := appendPair_eq query' other
  rw [hkey, hpair, hpair', Option.some.injEq] at hkey'
  have hsame : sourcePair source = sourcePair other := by
    obtain hle | hle := Nat.le_total front.length front'.length
    · exact last_eq_of_append_eq hkey' (ampersand_not_mem_sourcePair source) hfront' hle
    · exact (last_eq_of_append_eq hkey'.symm (ampersand_not_mem_sourcePair other) hfront hle).symm
  rw [sourcePair, sourcePair, List.append_cancel_left_eq, List.cons.injEq] at hsame
  exact Text.formEncode_injective hsame.2

theorem query_eq_none_of_sourceUri {p : Path} {file : Uri} (h : sourceUri p = .ok file) :
    file.query = none := by
  unfold sourceUri at h
  dsimp only at h
  split at h
  · rw [← Except.ok.inj h]
    rfl
  · cases h

theorem length_query_lt_length_chars {u : Uri} {q : List Char} (h : u.query = some q) :
    q.length < u.chars.length := by
  rw [Uri.chars, h]
  simp only [List.length_append, List.length_cons]
  omega

/-- The assembly view of a source is another document: its written form holds that of the source
in its query, and so it is longer. -/
theorem ne_of_assemblyUri {source key : Uri} (h : assemblyUri source = .ok key) : key ≠ source := by
  rintro rfl
  obtain ⟨query, hquery⟩ := exists_query_of_assemblyUri h
  obtain ⟨front, hpair, -⟩ := appendPair_eq query key
  have hencode := Text.length_le_length_formEncode key.chars
  have hshort := length_query_lt_length_chars hquery
  rw [hpair, sourcePair, List.length_append, List.length_append, List.length_cons] at hshort
  omega

end AsmExplorer
