import AsmExplorer.Proofs.Path.NormalForm
import AsmExplorer.Proofs.Text.Percent

/-!
# Names and extensions

The last component of a path is its file name, if it is a name.  Whatever the spelling, for absolute
and for relative paths:

* `Path.components_join_of_ne` : joining a relative path goes its steps after all components of the
  other path, unless that is the empty path.
* `Path.components_setExtension` : setting the extension changes the last component, if it is a
  name, and no other.
* `Path.components_withExtension_join` : so does changing the extension of a name in a directory,
  unless the name is two dots when its extension is cut off.
-/

namespace AsmExplorer

namespace Path

variable {p q : Path} {name extension : List UInt8}

/-! ### Where a path starts -/

/-- Where a path starts depends on its first part alone, but for an empty part that is the only
one. -/
theorem lead_cons {first : List UInt8} {rest rest' : List (List UInt8)}
    (h : first ≠ [] ∨ rest ≠ [] ∧ rest' ≠ []) : lead (first :: rest) = lead (first :: rest') := by
  by_cases hfirst : first = []
  · obtain ⟨hrest, hrest'⟩ := h.resolve_left (not_not.2 hfirst)
    obtain ⟨second, rest, rfl⟩ := List.exists_cons_of_ne_nil hrest
    obtain ⟨second', rest', rfl⟩ := List.exists_cons_of_ne_nil hrest'
    rw [hfirst]
    rfl
  · rw [lead_cons_of_ne_nil hfirst, lead_cons_of_ne_nil hfirst]

/-! ### Joining -/

theorem parts_append_slash (cs more : List UInt8) :
    (mk (cs ++ slash :: more)).parts = (mk cs).parts ++ (mk more).parts := by
  rw [parts, parts, parts, List.splitOn_append_cons_self]

/-- The parts of a relative path come after those of the path that it is joined to, or after all but
an empty last one. -/
theorem exists_parts_join (hp : p.bytes ≠ []) (hq : q.isAbsolute = false) :
    ∃ init, (p.join q).parts = init ++ q.parts ∧
      (p.parts = init ∨ p.parts = init ++ [[]] ∧ init ≠ []) := by
  rw [join, if_neg (by simp [hq])]
  by_cases hlast : p.bytes.getLast? = some slash
  · rw [if_pos (.inr hlast)]
    obtain ⟨front, hfront⟩ := List.getLast?_eq_some_iff.1 hlast
    refine ⟨(mk front).parts, ?_, .inr ⟨?_, List.splitOn_ne_nil _ _⟩⟩
    · rw [hfront, List.append_assoc, List.singleton_append, parts_append_slash]
    · rw [parts, hfront, ← parts, parts_append_slash]
      rfl
  · rw [if_neg (not_or.2 ⟨hp, hlast⟩)]
    exact ⟨p.parts, parts_append_slash p.bytes q.bytes, .inl rfl⟩

/-- **A relative path joined to another one goes its steps from there**, wherever that starts. -/
theorem components_join_of_ne (hp : p.bytes ≠ []) (hq : q.isAbsolute = false) :
    (p.join q).components = p.components ++ q.steps := by
  have hlead : lead (p.join q).parts = lead p.parts := by
    obtain ⟨init, hjoin, hinit⟩ := exists_parts_join hp hq
    have hparts : q.parts ≠ [] := List.splitOn_ne_nil _ _
    rcases hinit with rfl | ⟨hinit, hne⟩
    · obtain ⟨first, rest, hfirst⟩ := List.exists_cons_of_ne_nil (List.splitOn_ne_nil slash p.bytes)
      have hsplit : p.parts = first :: rest := hfirst
      rw [hjoin, hsplit, List.cons_append]
      refine lead_cons ?_
      by_cases hnil : first = []
      · refine .inr ⟨by simp [hparts], fun hrest => hp ?_⟩
        -- one empty part is the empty path
        have hbytes := p.bytes_eq_joinWith_parts
        rw [hsplit, hnil, hrest] at hbytes
        simpa [Text.joinWith] using hbytes
      · exact .inl hnil
    · obtain ⟨first, rest, rfl⟩ := List.exists_cons_of_ne_nil hne
      rw [hjoin, hinit, List.cons_append, List.cons_append]
      exact lead_cons (.inr ⟨by simp [hparts], by simp⟩)
  rw [components, components, hlead, steps_join hq,
    List.append_assoc]

theorem join_of_bytes_eq (hp : p.bytes = []) : p.join q = q := by
  unfold join
  split
  · rfl
  · rw [if_pos (.inl hp), hp, List.nil_append]

/-! ### Names -/

theorem fileName?_eq_some_iff :
    p.fileName? = some name ↔ p.components.getLast? = some (.name name) := by
  unfold fileName?
  split
  · rename_i hlast
    rw [hlast]
    simp
  · rename_i hlast
    exact ⟨fun h => (by cases h), fun h => absurd h (hlast name)⟩

theorem component?_eq_name_iff {part : List UInt8} :
    component? part = some (.name name) ↔
      part = name ∧ name ≠ [] ∧ name ≠ [dot] ∧ name ≠ [dot, dot] := by
  unfold component?
  split
  · rename_i htrivial
    refine ⟨fun h => (by cases h), ?_⟩
    rintro ⟨rfl, hnil, hhere, -⟩
    exact absurd htrivial (not_or.2 ⟨hnil, hhere⟩)
  · rename_i htrivial
    split
    · rename_i hup
      refine ⟨fun h => (by simp at h), ?_⟩
      rintro ⟨rfl, -, -, hne⟩
      exact absurd hup hne
    · rename_i hup
      rw [Option.some.injEq, Component.name.injEq]
      constructor
      · rintro rfl
        exact ⟨rfl, mt .inl htrivial, mt .inr htrivial, hup⟩
      · exact And.left

theorem name_not_mem_lead (parts : List (List UInt8)) : .name name ∉ lead parts := by
  unfold lead
  split <;> simp

theorem exists_entryName_of_name_mem (h : .name name ∈ p.components) :
    ∃ entry : EntryName, entry.bytes = name := by
  rw [components, List.mem_append] at h
  rcases isMove_of_mem_steps (h.resolve_left (name_not_mem_lead _)) with hup | ⟨entry, hentry⟩
  · cases hup
  · exact ⟨entry, (Component.name.inj hentry).symm⟩

theorem exists_entryName_of_name (h : p.fileName? = some name) :
    ∃ entry : EntryName, entry.bytes = name :=
  exists_entryName_of_name_mem (List.mem_of_getLast? (fileName?_eq_some_iff.1 h))

theorem lead_name (entry : EntryName) (rest : List (List UInt8)) :
    lead (entry.bytes :: rest) = [] :=
  lead_bytes_of_isMove (c := entry.component) (.inr ⟨entry, rfl⟩) rest

theorem components_mk (entry : EntryName) :
    (mk entry.bytes).components = [entry.component] := by
  have hsteps : (mk entry.bytes).steps = [entry.component] :=
    (steps_move (.inr ⟨entry, rfl⟩)).2
  have hparts : (mk entry.bytes).parts = [entry.bytes] := by
    have hsplit : (List.intercalate [slash] [entry.bytes]).splitOn slash = [entry.bytes] :=
      List.splitOn_intercalate slash (by simpa using entry.slash_not_mem) (by simp)
    rw [parts]
    simpa using hsplit
  rw [components, hsteps, hparts, lead_name, List.nil_append]

theorem components_join_name (p : Path) (entry : EntryName) :
    (p.join ⟨entry.bytes⟩).components = p.components ++ [entry.component] := by
  have hmove : entry.component.IsMove := .inr ⟨entry, rfl⟩
  have hrelative : (mk entry.bytes).isAbsolute = false := (steps_move hmove).1
  have hsteps : (mk entry.bytes).steps = [entry.component] := (steps_move hmove).2
  by_cases hp : p.bytes = []
  · obtain rfl : p = (mk []) := congrArg Path.mk hp
    rw [join_of_bytes_eq rfl, components_mk]
    rfl
  · rw [components_join_of_ne hp hrelative, hsteps]

theorem fileName?_join (p : Path) (h : q.steps ≠ []) : (p.join q).fileName? = q.fileName? := by
  by_cases hwhole : q.isAbsolute = true ∨ p.bytes = []
  · have hjoin : p.join q = q := by
      rcases hwhole with habsolute | hempty
      · rw [join, if_pos habsolute]
      · exact join_of_bytes_eq hempty
    rw [hjoin]
  · obtain ⟨hrelative, hne⟩ := not_or.1 hwhole
    have hlast : (p.join q).components.getLast? = q.components.getLast? := by
      rw [components_join_of_ne hne (Bool.eq_false_iff.2 hrelative), components, components,
        List.getLast?_append_of_ne_nil _ h, List.getLast?_append_of_ne_nil _ h]
    rw [fileName?, fileName?, hlast]

/-! ### Stems and extensions -/

section Stems

variable {α : Type} [DecidableEq α] {mark : α} {name extension : List α}

theorem eq_of_splitName (mark : α) (name : List α) :
    splitName mark name = (name, none) ∨
      ∃ before after, splitName mark name = (before, some after) ∧
        before ≠ [] ∧ name = before ++ mark :: after := by
  unfold splitName
  split
  · rename_i before after hsplit
    split
    · exact .inl rfl
    · rename_i hempty
      obtain ⟨heq, -⟩ := Text.splitLast_eq_some_iff.1 hsplit
      exact .inr ⟨before, after, rfl, by simpa using hempty, heq⟩
  · exact .inl rfl

theorem splitName_of_not_mem (h : mark ∉ name) : splitName mark name = (name, none) := by
  refine (eq_of_splitName mark name).resolve_right ?_
  rintro ⟨before, after, -, -, rfl⟩
  simp at h

theorem stem_ne_nil (h : name ≠ []) : (splitName mark name).1 ≠ [] := by
  rcases eq_of_splitName mark name with hname | ⟨before, after, hname, hne, -⟩
  · rwa [hname]
  · rwa [hname]

theorem mem_of_mem_stem {c : α} (h : c ∈ (splitName mark name).1) : c ∈ name := by
  rcases eq_of_splitName mark name with hname | ⟨before, after, hname, -, heq⟩
  · rwa [hname] at h
  · rw [hname] at h
    rw [heq]
    exact List.mem_append_left _ h

theorem splitName_append (hname : name ≠ []) (hmark : mark ∉ extension) :
    splitName mark (name ++ mark :: extension) = (name, some extension) := by
  rw [splitName, Text.splitLast_append_cons hmark]
  exact if_neg (by simpa using hname)

/-- What keeps the last mark of a name keeps its stem. -/
theorem fst_splitName_map {β : Type} [DecidableEq β] {f : List α → List β} {mark' : β}
    (hnil : ∀ part, f part = [] ↔ part = [])
    (hsplit : Text.splitLast mark' (f name) =
      (Text.splitLast mark name).map fun (before, after) => (f before, f after)) :
    (splitName mark' (f name)).1 = f (splitName mark name).1 := by
  rw [splitName, splitName, hsplit]
  cases Text.splitLast mark name with
  | none => rfl
  | some parts =>
    obtain ⟨before, after⟩ := parts
    by_cases hbefore : before = []
    · subst hbefore
      simp [(hnil []).2 rfl]
    · simp [mt (hnil before).1 hbefore, hbefore]

end Stems

/-- The stem of a name, with an extension that is not empty, is a name again. -/
def EntryName.withExtension (entry : EntryName) (extension : List UInt8) (hne : extension ≠ [])
    (hslash : slash ∉ extension) : EntryName where
  bytes := (splitName dot entry.bytes).1 ++ dot :: extension
  ne_nil := by simp
  ne_here h := by
    have hlength := congrArg List.length h
    have hpos := List.length_pos_iff.2 hne
    simp only [List.length_append, List.length_cons, List.length_nil] at hlength
    omega
  ne_up h := by
    have hlength := congrArg List.length h
    have hpos := List.length_pos_iff.2 hne
    have hstem : 0 < (splitName dot entry.bytes).1.length :=
      List.length_pos_iff.2 (stem_ne_nil entry.ne_nil)
    simp only [List.length_append, List.length_cons, List.length_nil] at hlength
    omega
  slash_not_mem h := by
    rcases List.mem_append.1 h with h | h
    · exact entry.slash_not_mem (mem_of_mem_stem h)
    · rcases List.mem_cons.1 h with h | h
      · cases h
      · exact hslash h

/-- The parts of a path with a file name: what follows that makes no component. -/
theorem exists_parts_of_fileName? (h : p.fileName? = some name) :
    ∃ before trivial, p.parts = before.reverse ++ name :: trivial ∧
      dropTrivial p.parts.reverse = name :: before ∧
      p.components = lead p.parts ++ before.reverse.filterMap component? ++ [.name name] := by
  have hlast := fileName?_eq_some_iff.1 h
  have hsteps : p.steps = (dropTrivial p.parts.reverse).reverse.filterMap component? := by
    rw [List.filterMap_reverse, filterMap_dropTrivial, ← List.filterMap_reverse,
      List.reverse_reverse, steps]
  cases hdrop : dropTrivial p.parts.reverse with
  | nil =>
    rw [hdrop] at hsteps
    rw [components, hsteps] at hlast
    exact absurd (List.mem_of_getLast? (by simpa using hlast)) (name_not_mem_lead p.parts)
  | cons last before =>
    obtain ⟨c, hc⟩ := exists_component?_of_dropTrivial hdrop
    have hcomponents :
        p.components = lead p.parts ++ before.reverse.filterMap component? ++ [c] := by
      rw [components, hsteps, hdrop, List.reverse_cons, List.filterMap_append,
        List.append_assoc]
      simp [hc]
    obtain rfl : c = .name name := by
      rw [hcomponents, List.getLast?_concat] at hlast
      exact Option.some.inj hlast
    obtain ⟨rfl, -⟩ := component?_eq_name_iff.1 hc
    refine ⟨before, (p.parts.reverse.takeWhile fun part => part.isEmpty || part == [dot]).reverse,
      ?_, rfl, hcomponents⟩
    have hparts := List.takeWhile_append_dropWhile
      (p := fun part => part.isEmpty || part == [dot]) (l := p.parts.reverse)
    rw [← dropTrivial, hdrop] at hparts
    have hreversed := congrArg List.reverse hparts
    rw [List.reverse_reverse, List.reverse_append, List.reverse_cons, List.append_assoc]
      at hreversed
    exact hreversed.symm

/-- **Setting the extension changes the last component**, if it is a name. -/
theorem components_setExtension {entry : EntryName} (h : p.fileName? = some entry.bytes)
    (hne : extension ≠ []) (hslash : slash ∉ extension) :
    (p.setExtension extension).components =
      p.components.dropLast ++ [(entry.withExtension extension hne hslash).component] := by
  obtain ⟨before, trivial, hparts, hdrop, hcomponents⟩ := exists_parts_of_fileName? h
  set renamed := entry.withExtension extension hne hslash with hrenamed
  have hstem : p.fileStem? = some (splitName dot entry.bytes).1 := by
    rw [fileStem?, h, Option.map_some]
  have hnew : p.setExtension extension =
      mk (Text.joinWith [slash] (before.reverse ++ [renamed.bytes])) := by
    rw [setExtension, hstem, hdrop, ← List.reverse_cons]
    rfl
  have hnewparts : (p.setExtension extension).parts = before.reverse ++ [renamed.bytes] := by
    rw [hnew, parts, Text.joinWith]
    refine List.splitOn_intercalate slash ?_ (by simp)
    intro part hpart
    rcases List.mem_append.1 hpart with hpart | hpart
    · exact not_mem_of_mem_splitOn (hparts ▸ List.mem_append_left _ hpart : part ∈ p.parts)
    · rw [List.mem_singleton.1 hpart]
      exact renamed.slash_not_mem
  have hlead : lead (before.reverse ++ [renamed.bytes]) =
      lead (before.reverse ++ entry.bytes :: trivial) := by
    cases before.reverse with
    | nil =>
      rw [List.nil_append, List.nil_append, lead_name, lead_name]
    | cons first rest =>
      exact lead_cons (.inr ⟨by simp, by simp⟩)
  rw [components, steps, hnewparts, hlead, ← hparts, hcomponents,
    List.dropLast_concat, List.filterMap_append, List.append_assoc]
  simp

theorem setExtension_of_fileName?_eq_none (h : p.fileName? = none) (extension : List UInt8) :
    p.setExtension extension = p := by
  have hstem : p.fileStem? = none := by rw [fileStem?, h, Option.map_none]
  rw [setExtension, hstem]

theorem withExtension_of_extension?_eq_none (h : p.extension? = none) (extension : List UInt8) :
    p.withExtension extension = p.setExtension extension := by
  rw [withExtension, h]
  dsimp only [Option.getD_none, List.length_nil]
  rw [Nat.sub_zero, List.take_length]

/-! ### The extension of a name in a directory -/

/-- What is left of a name when its extension is cut off. -/
def cutName (name : List UInt8) : List UInt8 :=
  name.take (name.length - ((splitName dot name).2.getD []).length)

theorem cutName_eq (name : List UInt8) :
    splitName dot name = (name, none) ∧ cutName name = name ∨
      ∃ before after, splitName dot name = (before, some after) ∧ before ≠ [] ∧
        name = before ++ dot :: after ∧ cutName name = before ++ [dot] := by
  rcases eq_of_splitName dot name with hname | ⟨before, after, hname, hne, heq⟩
  · refine .inl ⟨hname, ?_⟩
    rw [cutName, hname]
    exact List.take_of_length_le (by simp)
  · refine .inr ⟨before, after, hname, hne, heq, ?_⟩
    have hlength : name.length - after.length = (before ++ [dot]).length := by
      rw [heq]
      simp only [List.length_append, List.length_cons, List.length_nil]
      omega
    rw [cutName, hname, Option.getD_some, hlength, heq.trans (List.append_cons before dot after)]
    exact List.take_left

theorem cutName_of_stem_eq {entry : EntryName} (hstem : (splitName dot entry.bytes).1 = [dot]) :
    cutName entry.bytes = [dot, dot] := by
  rcases cutName_eq entry.bytes with ⟨hname, -⟩ | ⟨before, after, hname, -, -, hcut⟩
  · rw [hname] at hstem
    exact absurd hstem entry.ne_here
  · rw [hname] at hstem
    rw [hcut, show before = [dot] from hstem]
    rfl

theorem bytes_join (hq : q.isAbsolute = false) :
    (p.join q).bytes = (p.join ⟨[]⟩).bytes ++ q.bytes := by
  have hempty : (mk []).isAbsolute = false := rfl
  rw [join, join, hq, hempty]
  simp only [Bool.false_eq_true, if_false]
  split
  · rw [List.append_nil]
  · rw [List.append_assoc, List.singleton_append]

theorem isAbsolute_mk_eq_false {cs : List UInt8} (h : slash ∉ cs) :
    (mk cs).isAbsolute = false := by
  refine Bool.eq_false_iff.2 fun habsolute => h ?_
  obtain ⟨rest, hrest⟩ := isAbsolute_iff_exists.1 habsolute
  have hbytes : cs = slash :: rest := hrest
  exact hbytes ▸ List.mem_cons_self

theorem fileName?_join_name (p : Path) (entry : EntryName) :
    (p.join ⟨entry.bytes⟩).fileName? = some entry.bytes := by
  rw [fileName?_eq_some_iff, components_join_name, List.getLast?_concat]
  rfl

theorem withExtension_join_name (p : Path) (entry : EntryName) (extension : List UInt8) :
    (p.join ⟨entry.bytes⟩).withExtension extension =
      (p.join ⟨(cutName entry.bytes)⟩).setExtension extension := by
  have hextension : (p.join ⟨entry.bytes⟩).extension? = (splitName dot entry.bytes).2 := by
    rw [extension?, fileName?_join_name, Option.bind_some]
  have hshort : ((splitName dot entry.bytes).2.getD []).length ≤ entry.bytes.length := by
    rcases eq_of_splitName dot entry.bytes with hname | ⟨before, after, hname, -, heq⟩
    · simp [hname]
    · rw [hname, heq]
      simp only [Option.getD_some, List.length_append, List.length_cons]
      omega
  have hcut : slash ∉ cutName entry.bytes := fun h =>
    entry.slash_not_mem (List.mem_of_mem_take h)
  have hkept : (p.join ⟨(cutName entry.bytes)⟩).bytes =
      (p.join ⟨entry.bytes⟩).bytes.take
        ((p.join ⟨entry.bytes⟩).bytes.length -
          ((splitName dot entry.bytes).2.getD []).length) := by
    rw [bytes_join (isAbsolute_mk_eq_false hcut),
      bytes_join (isAbsolute_mk_eq_false entry.slash_not_mem),
      List.length_append, Nat.add_sub_assoc hshort, List.take_length_add_append, cutName]
  rw [withExtension, hextension, ← hkept]

theorem fileName?_join_up (p : Path) : (p.join ⟨[dot, dot]⟩).fileName? = none := by
  have hup : (mk [dot, dot]).fileName? = none ∧ (mk [dot, dot]).steps ≠ [] := by decide
  rw [fileName?_join p hup.2, hup.1]

theorem withExtension_join_of_stem_eq (p : Path) {entry : EntryName}
    (hstem : (splitName dot entry.bytes).1 = [dot]) (extension : List UInt8) :
    (p.join ⟨entry.bytes⟩).withExtension extension = p.join ⟨[dot, dot]⟩ := by
  rw [withExtension_join_name, cutName_of_stem_eq hstem,
    setExtension_of_fileName?_eq_none (fileName?_join_up p)]

/-- **A name in a directory gets its extension**, unless it is two dots without its old one. -/
theorem components_withExtension_join (p : Path) {entry : EntryName}
    (hstem : (splitName dot entry.bytes).1 ≠ [dot]) (hne : extension ≠ [])
    (hslash : slash ∉ extension) :
    ((p.join ⟨entry.bytes⟩).withExtension extension).components =
      p.components ++ [(entry.withExtension extension hne hslash).component] := by
  obtain ⟨kept, hkept, hsame⟩ : ∃ kept : EntryName, kept.bytes = cutName entry.bytes ∧
      (splitName dot kept.bytes).1 = (splitName dot entry.bytes).1 := by
    rcases cutName_eq entry.bytes with ⟨-, hcut⟩ | ⟨before, after, hname, hbefore, heq, hcut⟩
    · exact ⟨entry, hcut.symm, rfl⟩
    · rw [hname] at hstem
      refine ⟨⟨before ++ [dot], by simp, ?_, ?_, ?_⟩, hcut.symm, ?_⟩
      · intro hhere
        exact hbefore (List.append_left_eq_self.1 hhere)
      · intro hup
        exact hstem (List.append_cancel_right (hup : before ++ [dot] = [dot] ++ [dot]))
      · intro hmem
        have hslash := entry.slash_not_mem
        rw [heq] at hslash
        simp [dot_ne_slash.symm] at hmem hslash
        exact hslash.1 hmem
      · rw [hname, splitName_append hbefore (by simp)]
  have hcomponent : (kept.withExtension extension hne hslash).component =
      (entry.withExtension extension hne hslash).component :=
    congrArg (fun stem => Component.name (stem ++ dot :: extension)) hsame
  rw [withExtension_join_name, ← hkept,
    components_setExtension (fileName?_join_name p kept) hne hslash, components_join_name,
    List.dropLast_concat, hcomponent]

end Path

end AsmExplorer
