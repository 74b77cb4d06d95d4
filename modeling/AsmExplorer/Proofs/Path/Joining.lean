import AsmExplorer.Proofs.Path.Normal

/-!
# Paths seen from a directory

What a path made from other paths means is found from what those mean, whatever their spelling:

* `Path.components_join` : joining a relative path goes its steps after those of the directory.
* `Path.exists_components_of_parent?` : the parent lacks the last component, so a file's name joined
  to its parent is the file again (`Path.components_join_fileName`).
* `Path.exists_absolute?` : a path made absolute means what it means when joined to the directory,
  although its spelling may differ.
-/

namespace AsmExplorer

namespace Path

variable {p q directory : Path}

theorem bytes_eq_joinWith_parts (p : Path) : p.bytes = Text.joinWith [slash] p.parts :=
  (List.intercalate_splitOn slash).symm

theorem bytes_ne_of_isAbsolute (h : p.isAbsolute = true) : p.bytes ≠ [] := by
  intro hempty
  rw [isAbsolute, hempty] at h
  exact absurd h (by decide)

theorem isAbsolute_rooted {parts : List (List UInt8)} (hne : parts ≠ []) :
    (mk (rooted slash parts)).isAbsolute = true := by
  obtain ⟨part, parts, rfl⟩ := List.exists_cons_of_ne_nil hne
  exact isAbsolute_iff_exists.2 ⟨part ++ rooted slash parts, rfl⟩

theorem isAbsolute_of_root_mem (h : .root ∈ p.components) : p.isAbsolute = true := by
  cases hp : p.isAbsolute with
  | true => rfl
  | false => exact absurd rfl (isStep_of_mem_components hp h).1

/-! ### Steps -/

theorem isMove_of_mem_steps {c : Component} (h : c ∈ p.steps) : c.IsMove := by
  obtain ⟨part, hpart, hc⟩ := List.mem_filterMap.1 h
  exact isMove_of_component? (not_mem_of_mem_splitOn hpart) hc

theorem components_eq_steps_or (h : p.isAbsolute = false) :
    p.components = p.steps ∨ p.components = .here :: p.steps := by
  have hroot : .root ∉ lead p.parts := fun hmem => absurd rfl (isStep_of_mem_lead h hmem).1
  rw [components]
  unfold lead at hroot ⊢
  split at hroot
  · exact absurd List.mem_cons_self hroot
  · split
    · exact .inr rfl
    · exact .inl rfl
  · exact .inl rfl

theorem steps_move {c : Component} (h : c.IsMove) :
    (mk c.bytes).isAbsolute = false ∧ (mk c.bytes).steps = [c] := by
  rcases h with rfl | ⟨name, rfl⟩
  · decide
  · have hparts : (mk name.bytes).parts = [name.bytes] := by
      have hsplit : (List.intercalate [slash] [name.bytes]).splitOn slash = [name.bytes] :=
        List.splitOn_intercalate slash (by simpa using name.slash_not_mem) (by simp)
      rw [parts]
      simpa using hsplit
    refine ⟨Bool.eq_false_iff.2 fun habsolute => ?_, ?_⟩
    · obtain ⟨cs, hcs⟩ := isAbsolute_iff_exists.1 habsolute
      have hname : name.bytes = slash :: cs := hcs
      exact name.slash_not_mem (hname ▸ List.mem_cons_self)
    · show (mk name.bytes).parts.filterMap component? = _
      rw [hparts]
      simp

/-! ### Joining -/

theorem join_of_isAbsolute (h : q.isAbsolute = true) : p.join q = q :=
  if_pos h

/-- A relative path joined to parts goes on after them, or after all but an empty last one. -/
theorem join_rooted {parts : List (List UInt8)} (hne : parts ≠ [])
    (hslash : ∀ part ∈ parts, slash ∉ part) (hq : q.isAbsolute = false) :
    ∃ init, (mk (rooted slash parts)).join q = mk (rooted slash (init ++ q.parts)) ∧
      init.filterMap component? = parts.filterMap component? ∧ ∀ part ∈ init, part ∈ parts := by
  have hq' : slash :: q.bytes = rooted slash q.parts := by
    rw [q.bytes_eq_joinWith_parts]
    exact cons_joinWith (List.splitOn_ne_nil _ _)
  have htext : (mk (rooted slash parts)).bytes ≠ [] :=
    bytes_ne_of_isAbsolute (isAbsolute_rooted hne)
  rw [join, if_neg (by simp [hq])]
  by_cases hlast : (rooted slash parts).getLast? = some slash
  · -- the text ends in a slash if its last part is empty
    rw [if_pos (.inr hlast)]
    obtain ⟨init, last, rfl⟩ := (List.eq_nil_or_concat parts).resolve_left hne
    rw [List.concat_eq_append] at hslash hlast ⊢
    have hnil : last = [] := by
      rcases List.eq_nil_or_concat last with hnil | ⟨front, d, rfl⟩
      · exact hnil
      · rw [rooted_append, rooted_cons, rooted_nil, List.append_nil, List.concat_eq_append,
          ← List.cons_append, ← List.append_assoc, List.getLast?_concat, Option.some.injEq] at hlast
        exact absurd (by simp [hlast]) (hslash (front.concat d) (by simp))
    refine ⟨init, ?_, ?_, fun part hpart => List.mem_append_left _ hpart⟩
    · rw [rooted_append, rooted_append, ← hq', hnil]
      simp
    · simp [hnil, component?]
  · rw [if_neg (not_or.2 ⟨htext, hlast⟩)]
    exact ⟨parts, by rw [rooted_append, hq'], rfl, fun _ hpart => hpart⟩

/-- **A relative path joined to a directory goes its steps from there.** -/
theorem components_join (hp : p.isAbsolute = true) (hq : q.isAbsolute = false) :
    (p.join q).components = p.components ++ q.steps := by
  obtain ⟨parts, rfl, hne, hslash⟩ := exists_eq_rooted hp
  obtain ⟨init, hjoin, hinit, hmem⟩ := join_rooted hne hslash hq
  have hslash' : ∀ part ∈ init ++ q.parts, slash ∉ part := by
    intro part hpart
    rcases List.mem_append.1 hpart with hpart | hpart
    · exact hslash part (hmem part hpart)
    · exact not_mem_of_mem_splitOn hpart
  rw [hjoin, components_rooted (by simp [Path.parts, List.splitOn_ne_nil]) hslash',
    components_rooted hne hslash, List.filterMap_append, hinit, List.cons_append, steps]

theorem isAbsolute_join (hp : p.isAbsolute = true) : (p.join q).isAbsolute = true := by
  cases hq : q.isAbsolute with
  | true => rw [join_of_isAbsolute hq, hq]
  | false =>
    obtain ⟨moves, hmoves, -⟩ := components_of_isAbsolute hp
    refine isAbsolute_of_root_mem ?_
    rw [components_join hp hq, hmoves]
    exact List.mem_cons_self

theorem isAbsolute_join_of_relative (hp : p.isAbsolute = false) (hq : q.isAbsolute = false) :
    (p.join q).isAbsolute = false := by
  rw [join, if_neg (by simp [hq])]
  cases hbytes : p.bytes with
  | nil =>
    rw [if_pos (.inl rfl), List.nil_append]
    exact hq
  | cons c cs =>
    rw [isAbsolute, hbytes] at hp
    split
    · exact hp
    · exact hp

/-- Going moves one after the other. -/
theorem components_foldl_join {moves : List Component} (h : ∀ c ∈ moves, c.IsMove)
    (hp : p.isAbsolute = true) :
    (moves.foldl (fun q c => q.join ⟨c.bytes⟩) p).isAbsolute = true ∧
      (moves.foldl (fun q c => q.join ⟨c.bytes⟩) p).components = p.components ++ moves := by
  induction moves generalizing p with
  | nil => exact ⟨hp, (List.append_nil _).symm⟩
  | cons c moves ih =>
    obtain ⟨hrelative, hsteps⟩ := steps_move (h c List.mem_cons_self)
    have hrest := ih (fun c hc => h c (List.mem_cons_of_mem _ hc))
      (isAbsolute_join (q := mk c.bytes) hp)
    rw [components_join hp hrelative, hsteps, List.append_assoc] at hrest
    exact hrest

/-! ### Parents -/

theorem filterMap_dropTrivial (parts : List (List UInt8)) :
    (dropTrivial parts).filterMap component? = parts.filterMap component? := by
  induction parts with
  | nil => rfl
  | cons part parts ih =>
    rw [dropTrivial, List.dropWhile_cons]
    split
    · rename_i htrivial
      have hnone : component? part = none := if_pos (by simpa using htrivial)
      rw [List.filterMap_cons_none hnone]
      exact ih
    · rfl

theorem exists_component?_of_dropTrivial {parts before : List (List UInt8)} {last : List UInt8}
    (h : dropTrivial parts = last :: before) : ∃ c, component? last = some c := by
  have hlast := List.head?_dropWhile_not (fun part => part.isEmpty || part == [dot]) parts
  rw [← dropTrivial, h] at hlast
  have htrivial : ¬(last = [] ∨ last = [dot]) := by simpa using hlast
  rw [component?, if_neg htrivial]
  split
  · exact ⟨_, rfl⟩
  · exact ⟨_, rfl⟩

/-- **The parent of a path lacks its last component.** -/
theorem exists_components_of_parent? (hp : p.isAbsolute = true)
    (h : p.parent? = some directory) :
    directory.isAbsolute = true ∧ ∃ c, p.components = directory.components ++ [c] := by
  obtain ⟨parts, rfl, hne, hslash⟩ := exists_eq_rooted hp
  rw [parent?, parts_rooted hne hslash] at h
  cases hdrop : dropTrivial parts.reverse with
  | nil => simp [parentOf, hdrop] at h
  | cons last before =>
    obtain ⟨c, hc⟩ := exists_component?_of_dropTrivial hdrop
    generalize hkept : (dropTrivial before).reverse = kept
    have hcomponents : (mk (rooted slash parts)).components =
        .root :: kept.filterMap component? ++ [c] := by
      have hreverse :
          parts.reverse.filterMap component? = c :: kept.reverse.filterMap component? := by
        rw [← filterMap_dropTrivial, hdrop, List.filterMap_cons_some hc, ← hkept,
          List.reverse_reverse, filterMap_dropTrivial]
      rw [components_rooted hne hslash, ← List.reverse_reverse parts, List.filterMap_reverse,
        hreverse, List.reverse_cons, List.filterMap_reverse, List.reverse_reverse, List.cons_append]
    have hslash' : ∀ part ∈ kept, slash ∉ part := by
      intro part hpart
      rw [← hkept, List.mem_reverse] at hpart
      have hbefore : part ∈ dropTrivial parts.reverse :=
        hdrop ▸ List.mem_cons_of_mem _ (List.dropWhile_subset _ hpart)
      exact hslash part (List.mem_reverse.1 (List.dropWhile_subset _ hbefore))
    cases kept with
    | nil =>
      obtain rfl : mk [slash] = directory := by simpa [parentOf, hdrop, hkept] using h
      exact ⟨rfl, c, hcomponents⟩
    | cons first kept =>
      obtain rfl : mk (rooted slash (first :: kept)) = directory := by
        simpa [parentOf, hdrop, hkept, ← cons_joinWith, Text.joinWith, List.intercalate_cons_cons]
          using h
      refine ⟨isAbsolute_rooted (List.cons_ne_nil _ _), c, ?_⟩
      rw [hcomponents, components_rooted (List.cons_ne_nil _ _) hslash']

theorem head?_joinWith {first : List UInt8} (h : first ≠ []) (more : List (List UInt8)) :
    (Text.joinWith [slash] (first :: more)).head? = first.head? := by
  obtain ⟨c, cs, rfl⟩ := List.exists_cons_of_ne_nil h
  cases more with
  | nil => simp [Text.joinWith]
  | cons part more => simp [Text.joinWith, List.intercalate_cons_cons]

theorem isAbsolute_parent?_of_relative (hp : p.isAbsolute = false)
    (h : p.parent? = some directory) : directory.isAbsolute = false := by
  have hbytes := p.bytes_eq_joinWith_parts
  unfold parent? at h
  split at h
  · cases h
  · rename_i rest hparts
    cases rest with
    | nil => simp [parentOf, dropTrivial] at h
    | cons part rest =>
      -- the first part is empty only after the slash of the root
      rw [hparts, Text.joinWith, List.intercalate_cons_cons, List.nil_append] at hbytes
      rw [isAbsolute, hbytes] at hp
      cases hp
  · rename_i first rest hne hparts
    rw [hparts] at hbytes
    have hfirst : first.head? ≠ some slash := by
      rw [← head?_joinWith hne rest, ← hbytes]
      simpa [isAbsolute] using hp
    cases hdrop : dropTrivial rest.reverse with
    | nil =>
      obtain rfl : mk [] = directory := by simpa [parentOf, hdrop] using h
      rfl
    | cons last before =>
      obtain rfl : mk (Text.joinWith [slash] (first :: (dropTrivial before).reverse)) =
          directory := by
        simpa [parentOf, hdrop] using h
      simpa [isAbsolute, head?_joinWith hne] using hfirst
/-- The file name of an absolute path is a name that a directory can hold. -/
theorem exists_entryName_of_fileName? {name : List UInt8} (hp : p.isAbsolute = true)
    (h : p.fileName? = some name) :
    ∃ entry : EntryName, entry.bytes = name ∧ p.components.getLast? = some entry.component := by
  obtain ⟨moves, hmoves, hmove⟩ := components_of_isAbsolute hp
  have hlast : p.components.getLast? = some (.name name) := by
    unfold fileName? at h
    split at h
    · rwa [← Option.some.inj h]
    · cases h
  have hmem : Component.name name ∈ p.components := List.mem_of_getLast? hlast
  -- the root, which comes first, is not the name
  rw [hmoves] at hmem
  have hname : Component.IsMove (.name name) :=
    hmove _ ((List.mem_cons.1 hmem).resolve_left (by simp))
  obtain ⟨entry, hentry⟩ := hname.resolve_left (by simp)
  exact ⟨entry, (Component.name.inj hentry).symm, hlast.trans (congrArg some hentry)⟩

theorem components_join_fileName {name : List UInt8} (hp : p.isAbsolute = true)
    (hparent : p.parent? = some directory) (hname : p.fileName? = some name) :
    (directory.join ⟨name⟩).components = p.components := by
  obtain ⟨hdirectory, c, hc⟩ := exists_components_of_parent? hp hparent
  obtain ⟨entry, rfl, hlast⟩ := exists_entryName_of_fileName? hp hname
  obtain rfl : c = entry.component := by
    rw [hc, List.getLast?_concat] at hlast
    exact Option.some.inj hlast
  obtain ⟨hrelative, hsteps⟩ := steps_move (.inr ⟨entry, rfl⟩)
  rw [hc, ← hsteps]
  exact components_join hdirectory hrelative

/-! ### Absolute paths -/

/-- The components of a path after the root or the `.` that it starts with. -/
def moves (p : Path) : List Component :=
  match p.components with
  | .here :: rest => rest
  | .root :: rest => rest
  | cs => cs

theorem moves_of_relative (h : p.isAbsolute = false) : p.moves = p.steps := by
  rcases components_eq_steps_or h with hsteps | hsteps
  · rw [moves, hsteps]
    cases hcases : p.steps with
    | nil => rfl
    | cons c rest =>
      have hc : c.IsMove := isMove_of_mem_steps (hcases ▸ List.mem_cons_self)
      rcases hc with rfl | ⟨name, rfl⟩
      · rfl
      · rfl
  · rw [moves, hsteps]

theorem components_eq_root_cons (h : p.isAbsolute = true) : p.components = .root :: p.moves := by
  obtain ⟨rest, hrest, -⟩ := components_of_isAbsolute h
  rw [moves, hrest]

theorem isMove_of_mem_moves {c : Component} (hc : c ∈ p.moves) : c.IsMove := by
  cases hp : p.isAbsolute with
  | true =>
    obtain ⟨rest, hrest, hmove⟩ := components_of_isAbsolute hp
    have hmoves : p.moves = rest := by rw [moves, hrest]
    exact hmove c (hmoves ▸ hc)
  | false => exact isMove_of_mem_steps (moves_of_relative hp ▸ hc)

/-- **A path made absolute means what it means when joined to the directory.** -/
theorem exists_absolute? (hdirectory : directory.isAbsolute = true) (htext : p.bytes ≠ []) :
    ∃ q, p.absolute? directory = some q ∧ q.isAbsolute = true ∧
      q.components = (directory.join p).components := by
  generalize hstart : (if (!p.isAbsolute) = true then directory
    else if p.bytes.take 2 = [slash, slash] ∧ p.bytes[2]? ≠ some slash then mk [slash, slash]
    else mk [slash]) = start
  have hfrom : start.isAbsolute = true ∧
      start.components ++ p.moves = (directory.join p).components := by
    cases hp : p.isAbsolute with
    | false =>
      rw [hp, Bool.not_false, if_pos rfl] at hstart
      rw [← hstart, moves_of_relative hp, components_join hdirectory hp]
      exact ⟨hdirectory, rfl⟩
    | true =>
      -- with one slash or two at the start, the path starts at the root
      rw [hp, Bool.not_true, if_neg Bool.false_ne_true] at hstart
      rw [join_of_isAbsolute hp, components_eq_root_cons hp, ← hstart]
      split
      · exact ⟨rfl, rfl⟩
      · exact ⟨rfl, rfl⟩
  obtain ⟨hwhole, hcomponents⟩ := components_foldl_join (fun _ => isMove_of_mem_moves) hfrom.1
  rw [hfrom.2] at hcomponents
  generalize hgo : p.moves.foldl (fun q c => q.join ⟨c.bytes⟩) start = whole
    at hwhole hcomponents
  have habsolute : p.absolute? directory =
      some (if p.bytes.getLast? = some slash then whole.join ⟨[]⟩ else whole) := by
    rw [← hgo, ← hstart]
    exact if_neg htext
  refine ⟨_, habsolute, ?_⟩
  split
  · refine ⟨isAbsolute_join hwhole, ?_⟩
    rw [components_join hwhole rfl, hcomponents]
    exact List.append_nil _
  · exact ⟨hwhole, hcomponents⟩

example : Path.absolute? (.ofText "./a/../b.c/") (.ofText "/w") =
    some (.ofText "/w/a/../b.c/") := by
  decide

end Path

end AsmExplorer
