import AsmExplorer.Proofs.Listing.Index
import AsmExplorer.Proofs.Path.Relative
import Mathlib.Algebra.GroupWithZero.Nat

/-!
# The line index is exact

What the index of a listing holds is determined line by line.

* `ParsedLine.origin?` : the source line of a listing line, its path converted without regard to the
  lines before it.  The origins of a listing are just these (`LineIndex.origins_build`): taking over
  the document of the line before changes nothing.
* `LineIndex.positions` : the listing lines that came from a source line, in order.  The bucket of a
  source line holds just these (`LineIndex.Indexes`), by induction over the listing: one more line
  puts its number at the end of one bucket.

`LineIndex.exact_build` puts the two together.
-/

namespace AsmExplorer

/-! ### Origins -/

/-- The source line that a listing line came from. -/
def ParsedLine.origin? (line : ParsedLine) : Option SourceLine := do
  let loc ← line.resolvable?
  let file ← (sourceUri loc.file).toOption
  let index ← loc.lineIndex?
  some { file, line := index, column := loc.column }

theorem Path.normalize_congr {p q : Path} (h : p.components = q.components) :
    p.normalize = q.normalize := by
  rw [normalize, normalize, h]

theorem toOption_sourceUri_congr {p q : Path} (h : p.components = q.components) :
    (sourceUri p).toOption = (sourceUri q).toOption := by
  unfold sourceUri
  rw [Path.normalize_congr h]
  dsimp only
  split <;> rfl

theorem isAbsolute_of_sourceUri {p : Path} {file : Uri} (h : sourceUri p = .ok file) :
    p.isAbsolute = true := by
  unfold sourceUri at h
  dsimp only at h
  split at h
  · exact Path.isAbsolute_of_isAbsolute_normalize ‹_›
  · cases h

theorem toOption_eq_some_iff {ε α : Type} {x : Except ε α} {a : α} :
    x.toOption = some a ↔ x = .ok a := by
  cases x <;> simp [Except.toOption]

theorem SourceLocation.lineIndex?_eq_some_iff {loc : SourceLocation} {line : Nat} :
    loc.lineIndex? = some line ↔ loc.line.toNat = line + 1 := by
  have hzero : loc.line = 0 ↔ loc.line.toNat = 0 := by
    rw [← UInt32.toNat_inj]
    rfl
  unfold lineIndex?
  split
  · rename_i h
    simp [hzero.1 h]
  · rename_i h
    have hpos : loc.line.toNat ≠ 0 := fun hnil => h (hzero.2 hnil)
    rw [Option.some.injEq]
    omega

/-- A listing line came from a source line if it names an absolute file and a line. -/
theorem ParsedLine.origin?_eq_some_iff {parsed : ParsedLine} {origin : SourceLine} :
    parsed.origin? = some origin ↔ ∃ loc, parsed.source = some loc ∧ loc.file.bytes ≠ [] ∧
      loc.file.isAbsolute = true ∧ sourceUri loc.file = .ok origin.file ∧
      loc.line.toNat = origin.line + 1 ∧ origin.column = loc.column := by
  simp only [origin?, resolvable?, Option.bind_eq_bind, Option.bind_eq_some_iff,
    Option.filter_eq_some_iff, toOption_eq_some_iff, SourceLocation.lineIndex?_eq_some_iff]
  constructor
  · rintro ⟨loc, ⟨hsource, hresolvable⟩, file, hfile, line, hline, heq⟩
    obtain rfl := Option.some.inj heq
    simp only [SourceLocation.isResolvable, Bool.and_eq_true, bne_iff_ne, Bool.not_eq_true',
      List.isEmpty_eq_false_iff] at hresolvable
    exact ⟨loc, hsource, hresolvable.1, isAbsolute_of_sourceUri hfile, hfile, hline, rfl⟩
  · rintro ⟨loc, hsource, hfilled, -, hfile, hline, hcolumn⟩
    refine ⟨loc, ⟨hsource, ?_⟩, origin.file, hfile, origin.line, hline, ?_⟩
    · have hne : loc.line ≠ 0 := by
        intro hzero
        simp [hzero] at hline
      simp [SourceLocation.isResolvable, hfilled, hne]
    · rw [← hcolumn]

namespace LineIndex

/-- A path and its document, as they were converted before. -/
def Converted (last : Option (Path × Uri)) : Prop :=
  ∀ entry ∈ last, sourceUri entry.1 = .ok entry.2

theorem Converted.documentOf_eq {last : Option (Path × Uri)} (h : Converted last) (p : Path) :
    documentOf last p = (sourceUri p).toOption := by
  cases last with
  | none => rfl
  | some entry =>
    obtain ⟨q, file⟩ := entry
    simp only [documentOf]
    split
    · rename_i hcomponents
      have hfile : sourceUri q = .ok file := h (q, file) rfl
      rw [← toOption_sourceUri_congr hcomponents, hfile]
      rfl
    · rfl

theorem Converted.originsOf_eq {last : Option (Path × Uri)} (h : Converted last)
    (lines : List ParsedLine) : originsOf last lines = lines.map ParsedLine.origin? := by
  induction lines generalizing last with
  | nil => rfl
  | cons line lines ih =>
    rw [originsOf, List.map_cons, ParsedLine.origin?]
    cases line.resolvable? with
    | none => simp [ih h]
    | some loc =>
      simp only [h.documentOf_eq, Option.bind_eq_bind, Option.bind_some]
      cases hfile : sourceUri loc.file with
      | error _ => simp [Except.toOption, ih h]
      | ok file =>
        have hconverted : Converted (some (loc.file, file)) := by
          rintro entry hentry
          obtain rfl := Option.some.inj hentry
          exact hfile
        cases loc.lineIndex? with
        | none => simp [Except.toOption, ih h]
        | some index => simp [Except.toOption, ih hconverted]

/-- **Each origin is that of its line alone.** -/
theorem origins_build (lines : List ParsedLine) :
    (build lines).origins = lines.map ParsedLine.origin? :=
  Converted.originsOf_eq (by simp [Converted]) lines

/-! ### Buckets -/

/-- The listing lines that came from a source line, in order. -/
def positions (origins : List (Option SourceLine)) (file : Uri) (line : Nat) : List Nat :=
  (List.range origins.length).filter fun k =>
    origins[k]?.join.any fun origin => origin.file = file ∧ origin.line = line

theorem mem_positions_iff {origins : List (Option SourceLine)} {file : Uri} {line k : Nat} :
    k ∈ positions origins file line ↔
      ∃ origin, origins[k]?.join = some origin ∧ origin.file = file ∧ origin.line = line := by
  simp only [positions, List.mem_filter, List.mem_range, Option.any_eq_true, decide_eq_true_eq]
  constructor
  · rintro ⟨-, origin, hk, hat⟩
    exact ⟨origin, hk, hat⟩
  · rintro ⟨origin, hk, hat⟩
    have hlt : k < origins.length := by
      obtain ⟨hlt, -⟩ := List.getElem?_eq_some_iff.1 (Option.join_eq_some_iff.1 hk)
      exact hlt
    exact ⟨hlt, origin, hk, hat⟩

theorem pairwise_positions (origins : List (Option SourceLine)) (file : Uri) (line : Nat) :
    (positions origins file line).Pairwise (· < ·) :=
  List.pairwise_lt_range.filter _

/-- One more line is one more position if it came from the source line. -/
theorem positions_append_singleton (origins : List (Option SourceLine)) (last : Option SourceLine)
    (file : Uri) (line : Nat) :
    positions (origins ++ [last]) file line =
      positions origins file line ++
        if last.any fun origin => origin.file = file ∧ origin.line = line then [origins.length]
        else [] := by
  have hbefore : ∀ k ∈ List.range origins.length, (origins ++ [last])[k]? = origins[k]? :=
    fun k hk => List.getElem?_append_left (List.mem_range.1 hk)
  have hlast : (origins ++ [last])[origins.length]? = some last := by simp
  rw [positions, List.length_append, List.length_singleton, List.range_succ, List.filter_append,
    List.filter_congr fun k hk => by rw [hbefore k hk], ← positions, List.filter_cons, hlast]
  rfl

end LineIndex

namespace Buckets

/-- Buckets stand in ascending order of their source lines. -/
def Ascending (buckets : Buckets) : Prop :=
  buckets.Pairwise fun a b => a.1 < b.1

/-- The number of listing lines in buckets. -/
def size (buckets : Buckets) : Nat :=
  (buckets.map fun bucket => bucket.2.length).sum

variable {buckets : Buckets}

theorem lookup_eq_none_of_lt {line : Nat} (h : ∀ bucket ∈ buckets, line < bucket.1) :
    buckets.lookup line = none := by
  rw [List.lookup_eq_none_iff]
  intro bucket hbucket
  have hlt : line < bucket.1 := h bucket hbucket
  exact bne_iff_ne.2 (by omega)

theorem Ascending.lookup_of_mem (h : buckets.Ascending) {line : Nat} {ks : List Nat}
    (hmem : (line, ks) ∈ buckets) : buckets.lookup line = some ks := by
  induction buckets with
  | nil => cases hmem
  | cons bucket rest ih =>
    obtain ⟨hfirst, hrest⟩ := List.pairwise_cons.1 h
    obtain rfl | hmem := List.mem_cons.1 hmem
    · simp
    · have hlt : bucket.1 < line := hfirst _ hmem
      rw [List.lookup_cons, beq_false_of_ne (by omega)]
      exact ih hrest hmem

theorem mem_add {line k : Nat} {bucket : Nat × List Nat} (h : bucket ∈ buckets.add line k) :
    bucket.1 = line ∨ ∃ old ∈ buckets, old.1 = bucket.1 := by
  induction buckets with
  | nil =>
    rw [add, List.mem_singleton] at h
    exact .inl (by rw [h])
  | cons first rest ih =>
    rw [add] at h
    by_cases hlt : line < first.1
    · rw [if_pos hlt] at h
      obtain rfl | h := List.mem_cons.1 h
      · exact .inl rfl
      · exact .inr ⟨bucket, h, rfl⟩
    · rw [if_neg hlt] at h
      by_cases heq : line = first.1
      · rw [if_pos heq] at h
        obtain rfl | h := List.mem_cons.1 h
        · exact .inl heq.symm
        · exact .inr ⟨bucket, List.mem_cons_of_mem _ h, rfl⟩
      · rw [if_neg heq] at h
        obtain rfl | h := List.mem_cons.1 h
        · exact .inr ⟨first, List.mem_cons_self, rfl⟩
        · obtain hline | ⟨old, hold, hline⟩ := ih h
          · exact .inl hline
          · exact .inr ⟨old, List.mem_cons_of_mem _ hold, hline⟩

theorem Ascending.add (h : buckets.Ascending) (line k : Nat) : (buckets.add line k).Ascending := by
  induction buckets with
  | nil => exact List.pairwise_singleton _ _
  | cons first rest ih =>
    obtain ⟨hfirst, hrest⟩ := List.pairwise_cons.1 h
    rw [Buckets.add]
    by_cases hlt : line < first.1
    · rw [if_pos hlt]
      refine List.pairwise_cons.2 ⟨?_, h⟩
      intro other hother
      obtain rfl | hother := List.mem_cons.1 hother
      · exact hlt
      · exact Nat.lt_trans hlt (hfirst other hother)
    · rw [if_neg hlt]
      by_cases heq : line = first.1
      · rw [if_pos heq]
        exact List.pairwise_cons.2 ⟨hfirst, hrest⟩
      · rw [if_neg heq]
        refine List.pairwise_cons.2 ⟨?_, ih hrest⟩
        -- what comes later is the added line, which is greater, or was there before
        intro other hother
        obtain hline | ⟨old, hold, hline⟩ := mem_add hother
        · show first.1 < other.1
          omega
        · rw [← hline]
          exact hfirst old hold

/-- A listing line is added to the bucket of its source line, and to no other. -/
theorem Ascending.lookup_add (h : buckets.Ascending) (line k wanted : Nat) :
    (buckets.add line k).lookup wanted =
      if wanted = line then some ((buckets.lookup line).getD [] ++ [k])
      else buckets.lookup wanted := by
  induction buckets with
  | nil =>
    by_cases hwanted : wanted = line
    · simp [Buckets.add, hwanted]
    · simp [Buckets.add, List.lookup_cons, hwanted, beq_false_of_ne hwanted]
  | cons first rest ih =>
    obtain ⟨l, ks⟩ := first
    obtain ⟨hfirst, hrest⟩ := List.pairwise_cons.1 h
    rw [Buckets.add]
    by_cases hlt : line < l
    · rw [if_pos hlt]
      -- the bucket is new: that of no later source line is its own
      have hnone : List.lookup line ((l, ks) :: rest) = none := by
        refine lookup_eq_none_of_lt fun bucket hbucket => ?_
        obtain rfl | hbucket := List.mem_cons.1 hbucket
        · exact hlt
        · exact Nat.lt_trans hlt (hfirst bucket hbucket)
      by_cases hwanted : wanted = line
      · simp [hwanted, hnone]
      · rw [if_neg hwanted, List.lookup_cons, beq_false_of_ne hwanted]
    · rw [if_neg hlt]
      by_cases heq : line = l
      · rw [if_pos heq]
        by_cases hwanted : wanted = line
        · simp [hwanted, heq]
        · have hne : wanted ≠ l := fun h => hwanted (h.trans heq.symm)
          rw [if_neg hwanted, List.lookup_cons, List.lookup_cons, beq_false_of_ne hne]
      · rw [if_neg heq, List.lookup_cons, List.lookup_cons (a := line), List.lookup_cons,
          beq_false_of_ne heq, ih hrest]
        by_cases hwanted : wanted = l
        · simp [hwanted, Ne.symm heq]
        · rw [beq_false_of_ne hwanted]

theorem size_add (line k : Nat) (buckets : Buckets) :
    (buckets.add line k).size = buckets.size + 1 := by
  induction buckets with
  | nil => rfl
  | cons first rest ih =>
    simp only [size] at ih
    rw [add]
    by_cases hlt : line < first.1
    · rw [if_pos hlt]
      simp only [size, List.map_cons, List.sum_cons, List.length_singleton]
      omega
    · rw [if_neg hlt]
      by_cases heq : line = first.1
      · rw [if_pos heq]
        simp only [size, List.map_cons, List.sum_cons, List.length_append, List.length_singleton]
        omega
      · rw [if_neg heq]
        simp only [size, List.map_cons, List.sum_cons, ih]
        omega

end Buckets

namespace LineIndex

variable {origins : List (Option SourceLine)} {documents : List (Uri × Buckets)}

/-! ### Documents -/

/-- A listing line is added to the buckets of its document, and to no others. -/
theorem lookup_addTo (file wanted : Uri) (line k : Nat) (documents : List (Uri × Buckets)) :
    (addTo file line k documents).lookup wanted =
      if wanted = file then some (((documents.lookup file).getD [] : Buckets).add line k)
      else documents.lookup wanted := by
  induction documents with
  | nil =>
    by_cases hwanted : wanted = file
    · simp [addTo, Buckets.add, hwanted]
    · simp [addTo, List.lookup_cons, hwanted, beq_false_of_ne hwanted]
  | cons first rest ih =>
    obtain ⟨f, buckets⟩ := first
    rw [addTo]
    by_cases hfirst : f = file
    · rw [if_pos hfirst]
      by_cases hwanted : wanted = file
      · simp [hwanted, hfirst]
      · have hne : wanted ≠ f := fun h => hwanted (h.trans hfirst)
        rw [if_neg hwanted, List.lookup_cons, List.lookup_cons, beq_false_of_ne hne]
    · rw [if_neg hfirst, List.lookup_cons, List.lookup_cons (a := file), List.lookup_cons,
        beq_false_of_ne (Ne.symm hfirst), ih]
      by_cases hwanted : wanted = f
      · simp [hwanted, hfirst]
      · rw [beq_false_of_ne hwanted]

theorem map_fst_addTo (file : Uri) (line k : Nat) (documents : List (Uri × Buckets)) :
    (addTo file line k documents).map (·.1) =
      if file ∈ documents.map (·.1) then documents.map (·.1)
      else documents.map (·.1) ++ [file] := by
  induction documents with
  | nil => rfl
  | cons first rest ih =>
    obtain ⟨f, buckets⟩ := first
    rw [addTo]
    by_cases hfirst : f = file
    · simp [hfirst]
    · rw [if_neg hfirst, List.map_cons, ih, List.map_cons]
      by_cases hrest : file ∈ rest.map (·.1)
      · simp [hrest]
      · rw [if_neg hrest, if_neg]
        · rfl
        · rw [List.mem_cons, not_or]
          exact ⟨Ne.symm hfirst, hrest⟩

theorem lookup_of_mem (h : (documents.map (·.1)).Nodup) {file : Uri} {buckets : Buckets}
    (hmem : (file, buckets) ∈ documents) : documents.lookup file = some buckets := by
  induction documents with
  | nil => cases hmem
  | cons first rest ih =>
    rw [List.map_cons, List.nodup_cons] at h
    obtain rfl | hmem := List.mem_cons.1 hmem
    · simp
    · have hne : file ≠ first.1 := fun heq => h.1 (heq ▸ List.mem_map_of_mem hmem)
      rw [List.lookup_cons, beq_false_of_ne hne]
      exact ih h.2 hmem

/-- The number of listing lines in the buckets of all documents. -/
def size (documents : List (Uri × Buckets)) : Nat :=
  (documents.map fun document => document.2.size).sum

theorem size_addTo (file : Uri) (line k : Nat) (documents : List (Uri × Buckets)) :
    size (addTo file line k documents) = size documents + 1 := by
  induction documents with
  | nil => rfl
  | cons first rest ih =>
    obtain ⟨f, buckets⟩ := first
    simp only [size] at ih
    rw [addTo]
    by_cases hfirst : f = file
    · rw [if_pos hfirst]
      simp only [size, List.map_cons, List.sum_cons, Buckets.size_add]
      omega
    · rw [if_neg hfirst]
      simp only [size, List.map_cons, List.sum_cons, ih]
      omega

/-! ### Collecting -/

/-- The buckets of the documents hold the positions of the source lines. -/
structure Indexes (origins : List (Option SourceLine)) (documents : List (Uri × Buckets)) :
    Prop where
  nodup : (documents.map (·.1)).Nodup
  ascending : ∀ file, Buckets.Ascending ((documents.lookup file).getD [])
  lookup_eq : ∀ file line, ((documents.lookup file).getD []).lookup line =
    if positions origins file line = [] then none else some (positions origins file line)
  size_eq : size documents = origins.countP Option.isSome

theorem indexes_nil : Indexes [] [] where
  nodup := List.nodup_nil
  ascending _ := List.Pairwise.nil
  lookup_eq _ _ := rfl
  size_eq := rfl

namespace Indexes

theorem append_none (h : Indexes origins documents) : Indexes (origins ++ [none]) documents where
  nodup := h.nodup
  ascending := h.ascending
  lookup_eq file line := by
    rw [positions_append_singleton, h.lookup_eq]
    simp
  size_eq := by
    rw [h.size_eq]
    simp

/-- One more line from a source line goes to the end of the bucket of that. -/
theorem append_some (h : Indexes origins documents) (origin : SourceLine) :
    Indexes (origins ++ [some origin])
      (addTo origin.file origin.line origins.length documents) where
  nodup := by
    rw [map_fst_addTo]
    by_cases hmem : origin.file ∈ documents.map (·.1)
    · rw [if_pos hmem]
      exact h.nodup
    · rw [if_neg hmem]
      refine List.nodup_append.2 ⟨h.nodup, by simp, ?_⟩
      intro file hfile other hother heq
      exact hmem (List.mem_singleton.1 hother ▸ heq ▸ hfile)
  ascending file := by
    rw [lookup_addTo]
    by_cases hfile : file = origin.file
    · rw [if_pos hfile]
      exact (h.ascending _).add _ _
    · rw [if_neg hfile]
      exact h.ascending file
  lookup_eq file line := by
    rw [positions_append_singleton, lookup_addTo]
    -- only the bucket of the new line's origin has one more position
    by_cases hfile : file = origin.file
    · rw [if_pos hfile, Option.getD_some, (h.ascending _).lookup_add, h.lookup_eq, h.lookup_eq]
      by_cases hline : line = origin.line
      · subst hfile hline
        by_cases hnil : positions origins origin.file origin.line = []
        · simp [hnil]
        · simp [hnil]
      · simp [hfile, hline, Ne.symm hline]
    · rw [if_neg hfile, h.lookup_eq]
      simp [Ne.symm hfile]
  size_eq := by
    rw [size_addTo, h.size_eq]
    simp

theorem collect (h : Indexes origins documents) (rest : List (Option SourceLine)) :
    Indexes (origins ++ rest) (LineIndex.collect documents origins.length rest) := by
  induction rest generalizing origins documents with
  | nil =>
    rw [List.append_nil]
    exact h
  | cons last rest ih =>
    have hlength : (origins ++ [last]).length = origins.length + 1 := by simp
    rw [List.append_cons]
    cases last with
    | none =>
      have hcollect := ih h.append_none
      rw [hlength] at hcollect
      exact hcollect
    | some origin =>
      have hcollect := ih (h.append_some origin)
      rw [hlength] at hcollect
      exact hcollect

end Indexes

theorem indexes_build (lines : List ParsedLine) :
    Indexes (build lines).origins (build lines).documents :=
  indexes_nil.collect _

theorem assemblyLines?_build (lines : List ParsedLine) (file : Uri) (line : Nat) :
    (build lines).assemblyLines? file line =
      if positions (build lines).origins file line = [] then none
      else some (positions (build lines).origins file line) :=
  (indexes_build lines).lookup_eq file line

/-- The bucket of a source line holds the listing lines that came from it. -/
theorem mem_assemblyLines?_build {lines : List ParsedLine} {file : Uri} {line k : Nat} :
    (∃ ks, (build lines).assemblyLines? file line = some ks ∧ k ∈ ks) ↔
      ∃ origin, (build lines).sourceLine? k = some origin ∧
        origin.file = file ∧ origin.line = line := by
  rw [assemblyLines?_build]
  simp only [sourceLine?]
  rw [← mem_positions_iff]
  constructor
  · rintro ⟨ks, hks, hk⟩
    by_cases hnil : positions (build lines).origins file line = []
    · simp [hnil] at hks
    · rw [if_neg hnil, Option.some.injEq] at hks
      exact hks ▸ hk
  · intro hk
    exact ⟨_, if_neg (List.ne_nil_of_mem hk), hk⟩

/-- **The unused lines** of a document that occurs in the listing are those that no listing line
came from; of any other document there are none. -/
theorem mem_unusedLines_build_iff {lines : List ParsedLine} {file : Uri} {total line : Nat} :
    line ∈ (build lines).unusedLines file total ↔ line < total ∧
      (∃ k origin, (build lines).sourceLine? k = some origin ∧ origin.file = file) ∧
        ∀ k origin, (build lines).sourceLine? k = some origin → origin.file = file →
          origin.line ≠ line := by
  rw [← containsFile_build, containsFile, unusedLines]
  cases hlookup : (build lines).documents.lookup file with
  | none => simp
  | some buckets =>
    have hbuckets : buckets.lookup line = (build lines).assemblyLines? file line := by
      rw [assemblyLines?, LineIndex.buckets, hlookup, Option.getD_some]
    simp only [List.mem_filter, List.mem_range, Option.isSome_some, true_and, hbuckets,
      Option.isNone_iff_eq_none]
    refine and_congr_right fun _ => ⟨fun hnone k origin hk hfile hline => ?_, fun hnone => ?_⟩
    · obtain ⟨ks, hks, -⟩ := mem_assemblyLines?_build.2 ⟨origin, hk, hfile, hline⟩
      rw [hnone] at hks
      cases hks
    · rw [assemblyLines?_build]
      refine if_pos (List.eq_nil_iff_forall_not_mem.2 fun k hk => ?_)
      obtain ⟨origin, horigin, hfile, hline⟩ := mem_positions_iff.1 hk
      exact hnone k origin horigin hfile hline

theorem pairwise_unusedLines (index : LineIndex) (file : Uri) (total : Nat) :
    (index.unusedLines file total).Pairwise (· < ·) := by
  unfold unusedLines
  split
  · exact List.Pairwise.nil
  · exact List.pairwise_lt_range.filter _

theorem lt_of_mem_unusedLines {index : LineIndex} {file : Uri} {total line : Nat}
    (h : line ∈ index.unusedLines file total) : line < total := by
  unfold unusedLines at h
  split at h
  · cases h
  · exact List.mem_range.1 (List.mem_filter.1 h).1

theorem sourceLine?_build (lines : List ParsedLine) (k : Nat) :
    (build lines).sourceLine? k = lines[k]?.bind ParsedLine.origin? := by
  rw [sourceLine?, origins_build, List.getElem?_map]
  cases lines[k]? <;> rfl

/-! ### The correspondence -/

/-- An index holds the correspondence of a listing with its sources, and nothing else. -/
structure Exact (lines : List ParsedLine) (index : LineIndex) : Prop where
  /-- Every path is converted as if it were the first. -/
  origins_eq : index.origins = lines.map ParsedLine.origin?
  /-- The two directions agree. -/
  inverse : ∀ file line k, (∃ ks, index.assemblyLines? file line = some ks ∧ k ∈ ks) ↔
    ∃ origin, index.sourceLine? k = some origin ∧ origin.file = file ∧ origin.line = line
  /-- A listing line came from the source line that it names, counted from 1, with its column. -/
  sourceLine?_iff : ∀ k origin, index.sourceLine? k = some origin ↔
    ∃ parsed loc, lines[k]? = some parsed ∧ parsed.source = some loc ∧ loc.file.bytes ≠ [] ∧
      loc.file.isAbsolute = true ∧ sourceUri loc.file = .ok origin.file ∧
      loc.line.toNat = origin.line + 1 ∧ origin.column = loc.column
  /-- Every bucket is found, is not empty, and is in the order of the listing. -/
  bucket : ∀ document ∈ index.documents, ∀ bucket ∈ document.2,
    index.assemblyLines? document.1 bucket.1 = some bucket.2 ∧ bucket.2 ≠ [] ∧
      bucket.2.Pairwise (· < ·)
  /-- A listing line is in one bucket at most. -/
  disjoint : ∀ file line ks file' line' ks' k, index.assemblyLines? file line = some ks → k ∈ ks →
    index.assemblyLines? file' line' = some ks' → k ∈ ks' → file' = file ∧ line' = line
  /-- The documents are those that listing lines came from, each once. -/
  mem_files_iff : ∀ file, file ∈ index.files ↔
    ∃ k origin, index.sourceLine? k = some origin ∧ origin.file = file
  nodup_files : index.files.Nodup
  /-- The lines with a source are as many as there are in the buckets. -/
  mappedCount_eq : index.mappedCount =
    (index.documents.map fun document => (document.2.map fun bucket => bucket.2.length).sum).sum

/-- **The index of a listing is the exact correspondence of its lines with the source lines.** -/
theorem exact_build (lines : List ParsedLine) : Exact lines (build lines) where
  origins_eq := origins_build lines
  inverse _ _ _ := mem_assemblyLines?_build
  sourceLine?_iff k origin := by
    rw [sourceLine?_build, Option.bind_eq_some_iff]
    simp only [ParsedLine.origin?_eq_some_iff]
    constructor
    · rintro ⟨parsed, hparsed, loc, hloc⟩
      exact ⟨parsed, loc, hparsed, hloc⟩
    · rintro ⟨parsed, loc, hparsed, hloc⟩
      exact ⟨parsed, hparsed, loc, hloc⟩
  bucket := by
    rintro ⟨file, buckets⟩ hdocument ⟨line, ks⟩ hbucket
    -- the documents are different and so are the lines of one, so lookups find this bucket
    have hindexes := indexes_build lines
    have hbuckets : (build lines).buckets file = buckets := by
      rw [LineIndex.buckets, lookup_of_mem hindexes.nodup hdocument, Option.getD_some]
    have hascending : buckets.Ascending := hbuckets ▸ hindexes.ascending file
    have hks : (build lines).assemblyLines? file line = some ks := by
      rw [assemblyLines?, hbuckets]
      exact hascending.lookup_of_mem hbucket
    refine ⟨hks, ?_⟩
    rw [assemblyLines?_build] at hks
    by_cases hnil : positions (build lines).origins file line = []
    · simp [hnil] at hks
    · rw [if_neg hnil, Option.some.injEq] at hks
      exact ⟨hks ▸ hnil, hks ▸ pairwise_positions _ _ _⟩
  disjoint file line ks file' line' ks' k hks hk hks' hk' := by
    obtain ⟨origin, horigin, rfl, rfl⟩ := mem_assemblyLines?_build.1 ⟨ks, hks, hk⟩
    obtain ⟨origin', horigin', rfl, rfl⟩ := mem_assemblyLines?_build.1 ⟨ks', hks', hk'⟩
    obtain rfl : origin = origin' := Option.some.inj (horigin.symm.trans horigin')
    exact ⟨rfl, rfl⟩
  mem_files_iff file := by
    rw [← containsFile_build, files, containsFile, List.mem_map, List.lookup_isSome_iff]
    simp only [beq_iff_eq, eq_comm (a := file)]
  nodup_files := (indexes_build lines).nodup
  mappedCount_eq := (indexes_build lines).size_eq.symm

/-- Different spellings of a path meet in one bucket, and a relative one is in none. -/
example :
    let parsed : String → ParsedLine := fun path =>
      { text := "", source := some ⟨.ofText path, 4, none⟩ }
    let index := build [parsed "/a/../b.c", parsed "b.c", parsed "/b.c"]
    (index.documents.map fun document => document.2) = [[(3, [0, 2])]] ∧
      index.sourceLine? 1 = none := by
  decide

end LineIndex

end AsmExplorer
