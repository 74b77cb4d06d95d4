import AsmExplorer.Listing.CompiledUnit

/-!
# The documents of a listing

`LineIndex.build` notes the source line of every listing line twice: among the origins, and in the
buckets of its document.  So the documents that occur in a listing are those that its lines came
from (`LineIndex.containsFile_build`), and every source line that a unit leads to is in one of the
sources of the unit (`CompiledUnit.references_of_definitionAt?`).
-/

namespace AsmExplorer

namespace LineIndex

theorem isSome_lookup_addTo (file wanted : Uri) (line k : Nat) (documents : List (Uri × Buckets)) :
    ((addTo file line k documents).lookup wanted).isSome =
      (wanted == file || (documents.lookup wanted).isSome) := by
  induction documents with
  | nil =>
    by_cases h : wanted = file
    · simp [addTo, h]
    · simp [addTo, List.lookup_cons, beq_false_of_ne h]
  | cons entry rest ih =>
    obtain ⟨f, buckets⟩ := entry
    by_cases hfile : f = file
    · subst hfile
      by_cases h : wanted = f
      · simp [addTo, h]
      · simp [addTo, List.lookup_cons, beq_false_of_ne h]
    · rw [addTo, if_neg hfile, List.lookup_cons, List.lookup_cons]
      by_cases h : wanted = f
      · simp [h]
      · simpa only [beq_false_of_ne h] using ih

/-- Collecting keeps the documents that are there, and adds those of the origins. -/
theorem isSome_lookup_collect (wanted : Uri) (origins : List (Option SourceLine)) (k : Nat)
    (documents : List (Uri × Buckets)) :
    ((collect documents k origins).lookup wanted).isSome ↔
      (documents.lookup wanted).isSome ∨
        ∃ origin, some origin ∈ origins ∧ origin.file = wanted := by
  induction origins generalizing documents k with
  | nil => simp [collect]
  | cons origin origins ih =>
    cases origin with
    | none => simp [collect, ih]
    | some origin =>
      rw [collect, ih, isSome_lookup_addTo, Bool.or_eq_true, beq_iff_eq]
      constructor
      · rintro ((rfl | hdocuments) | ⟨other, hother, rfl⟩)
        · exact .inr ⟨origin, List.mem_cons_self, rfl⟩
        · exact .inl hdocuments
        · exact .inr ⟨other, List.mem_cons_of_mem _ hother, rfl⟩
      · rintro (hdocuments | ⟨other, hother, rfl⟩)
        · exact .inl (.inr hdocuments)
        · obtain heq | hother := List.mem_cons.1 hother
          · exact .inl (.inl (by rw [Option.some.inj heq]))
          · exact .inr ⟨other, hother, rfl⟩

/-- **The documents of a listing** are those that its lines came from. -/
theorem containsFile_build (lines : List ParsedLine) (file : Uri) :
    (build lines).containsFile file = true ↔
      ∃ k origin, (build lines).sourceLine? k = some origin ∧ origin.file = file := by
  have hlookup : (build lines).containsFile file = true ↔
      ∃ origin, some origin ∈ (build lines).origins ∧ origin.file = file := by
    have hcollect := isSome_lookup_collect file (originsOf none lines) 0 []
    simpa [containsFile, build] using hcollect
  rw [hlookup]
  constructor
  · rintro ⟨origin, horigin, hfile⟩
    obtain ⟨k, hk⟩ := List.mem_iff_getElem?.1 horigin
    exact ⟨k, origin, by rw [sourceLine?, hk]; rfl, hfile⟩
  · rintro ⟨k, origin, hk, hfile⟩
    refine ⟨origin, List.mem_iff_getElem?.2 ⟨k, ?_⟩, hfile⟩
    exact Option.join_eq_some_iff.1 hk

theorem mem_files_build {lines : List ParsedLine} {file : Uri} :
    file ∈ (build lines).files ↔
      ∃ k origin, (build lines).sourceLine? k = some origin ∧ origin.file = file := by
  rw [← containsFile_build, files, containsFile, List.mem_map, List.lookup_isSome_iff]
  simp only [beq_iff_eq, eq_comm (a := file)]

end LineIndex

namespace CompiledUnit

theorem mem_referenced (unit : CompiledUnit) (document : Uri) :
    document ∈ unit.referenced ↔ document = unit.primary ∨ document ∈ unit.index.files := by
  rw [referenced]
  split
  · rename_i hprimary
    have hmem : unit.primary ∈ unit.index.files := by simpa using hprimary
    exact ⟨.inr, fun h => h.elim (fun heq => heq ▸ hmem) id⟩
  · exact List.mem_cons

theorem nodup_referenced (unit : CompiledUnit) (h : unit.index.files.Nodup) :
    unit.referenced.Nodup := by
  rw [referenced]
  split
  · exact h
  · rename_i hprimary
    exact List.nodup_cons.2 ⟨by simpa using hprimary, h⟩

theorem references_of_definitionAt? {u : CompiledUnit} {line : Nat}
    {target : SourceLine} (h : u.definitionAt? line = some target) :
    u.references target.file = true := by
  have hfile : u.index.containsFile target.file = true := by
    rw [definitionAt?, u.index_eq] at h
    rw [u.index_eq]
    exact (LineIndex.containsFile_build _ _).2 ⟨line, target, h, rfl⟩
  rw [references, hfile, Bool.or_true]

end CompiledUnit

end AsmExplorer
