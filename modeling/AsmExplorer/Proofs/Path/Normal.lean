import AsmExplorer.Proofs.Path.Relative

/-!
# The normal form of an absolute path

The lexical normal form of an absolute path is the root and names (`Path.exists_normalize_eq`):
there is nothing left to go up from, since `..` at the root disappears.  Such a path,
`Path.ofNames`, is determined by its names and spelled in one way only.  So paths have the same
normal form exactly if the components of their normal forms are the same (`Path.normalize_eq_iff`).
-/

namespace AsmExplorer

namespace Path

/-- A name that a directory can hold: neither empty, nor dots, nor divided by a slash. -/
structure EntryName where
  /-- The spelling. -/
  bytes : List UInt8
  ne_nil : bytes ≠ []
  ne_here : bytes ≠ [dot]
  ne_up : bytes ≠ [dot, dot]
  slash_not_mem : slash ∉ bytes

namespace EntryName

/-- The name as a step of a path. -/
def component (name : EntryName) : Component :=
  .name name.bytes

@[simp] theorem component?_bytes (name : EntryName) :
    component? name.bytes = some name.component := by
  rw [component?, if_neg (not_or.2 ⟨name.ne_nil, name.ne_here⟩), if_neg name.ne_up, component]

end EntryName

variable {p q : Path} {names : List EntryName}

/-! ### Spellings -/

section Rooted

variable {α : Type}

/-- The path from the root through the given parts: each has the mark, a slash, before it. -/
def rooted (mark : α) (parts : List (List α)) : List α :=
  parts.flatMap fun part => mark :: part

@[simp] theorem rooted_nil (mark : α) : rooted mark [] = [] :=
  rfl

@[simp] theorem rooted_cons (mark : α) (part : List α) (parts : List (List α)) :
    rooted mark (part :: parts) = mark :: part ++ rooted mark parts :=
  List.flatMap_cons

@[simp] theorem rooted_append (mark : α) (parts more : List (List α)) :
    rooted mark (parts ++ more) = rooted mark parts ++ rooted mark more :=
  List.flatMap_append

theorem cons_joinWith {mark : α} {parts : List (List α)} (hne : parts ≠ []) :
    mark :: Text.joinWith [mark] parts = rooted mark parts := by
  induction parts with
  | nil => exact absurd rfl hne
  | cons part parts ih =>
    cases parts with
    | nil => simp [Text.joinWith]
    | cons next parts =>
      rw [rooted_cons, ← ih (List.cons_ne_nil _ _)]
      simp [Text.joinWith, List.intercalate_cons_cons]

end Rooted

theorem parts_rooted {parts : List (List UInt8)} (hne : parts ≠ [])
    (hslash : ∀ part ∈ parts, slash ∉ part) : (mk (rooted slash parts)).parts = [] :: parts := by
  rw [← cons_joinWith hne, Path.parts, List.splitOn_cons_eq_if_modifyHead, if_pos (by rfl),
    Text.joinWith, List.splitOn_intercalate slash hslash hne]

theorem components_rooted {parts : List (List UInt8)} (hne : parts ≠ [])
    (hslash : ∀ part ∈ parts, slash ∉ part) :
    (mk (rooted slash parts)).components = .root :: parts.filterMap component? := by
  have hparts := parts_rooted hne hslash
  obtain ⟨part, parts, rfl⟩ := List.exists_cons_of_ne_nil hne
  rw [components, steps, hparts]
  rfl

/-! ### Paths of names -/

/-- The path from the root through the given names. -/
def ofNames (names : List EntryName) : Path :=
  ofComponents (.root :: names.map EntryName.component)

/-- The parts of the spelling of `ofNames`: after the slash of the root alone stands nothing. -/
def levels : List EntryName → List (List UInt8)
  | [] => [[]]
  | name :: names => (name :: names).map EntryName.bytes

theorem levels_ne_nil (names : List EntryName) : levels names ≠ [] := by
  cases names <;> simp [levels]

theorem slash_not_mem_of_mem_levels {part : List UInt8} (h : part ∈ levels names) :
    slash ∉ part := by
  cases names with
  | nil => simp [List.mem_singleton.1 h]
  | cons name names =>
    obtain ⟨entry, -, rfl⟩ := List.mem_map.1 h
    exact entry.slash_not_mem

theorem filterMap_levels (names : List EntryName) :
    (levels names).filterMap component? = names.map EntryName.component := by
  cases names with
  | nil => rfl
  | cons name names =>
    rw [levels, List.filterMap_map, ← List.filterMap_eq_map]
    exact congrArg (List.filterMap · _) (funext EntryName.component?_bytes)

theorem bytes_ofNames (names : List EntryName) :
    (ofNames names).bytes = rooted slash (levels names) := by
  rw [ofNames, ofComponents]
  cases names with
  | nil => rfl
  | cons name names =>
    rw [cons_joinWith (by simp), levels, List.map_map]
    rfl

theorem ofNames_eq_mk (names : List EntryName) :
    ofNames names = mk (rooted slash (levels names)) := by
  rw [← bytes_ofNames]

@[simp] theorem components_ofNames (names : List EntryName) :
    (ofNames names).components = .root :: names.map EntryName.component := by
  rw [ofNames_eq_mk, components_rooted (levels_ne_nil names)
    fun _ => slash_not_mem_of_mem_levels, filterMap_levels]

theorem components_ofNames_slash (names : List EntryName) :
    (mk ((ofNames names).bytes ++ [slash])).components = (ofNames names).components := by
  have hslash : ∀ part ∈ levels names ++ [[]], slash ∉ part := by
    intro part hpart
    obtain hpart | hpart := List.mem_append.1 hpart
    · exact slash_not_mem_of_mem_levels hpart
    · simp [List.mem_singleton.1 hpart]
  have hrooted : (ofNames names).bytes ++ [slash] = rooted slash (levels names ++ [[]]) := by
    simp [bytes_ofNames]
  rw [hrooted, components_rooted (by simp) hslash, List.filterMap_append, filterMap_levels,
    components_ofNames]
  simp [component?]

@[simp] theorem isAbsolute_ofNames (names : List EntryName) :
    (ofNames names).isAbsolute = true := by
  rw [isAbsolute, ofNames, ofComponents]
  rfl

/-! ### Normal forms -/

/-- A component after the root of an absolute path goes up, or to a name. -/
def Component.IsMove (c : Component) : Prop :=
  c = .up ∨ ∃ name : EntryName, c = name.component

theorem isMove_of_component? {part : List UInt8} {c : Component} (hslash : slash ∉ part)
    (h : component? part = some c) : c.IsMove := by
  unfold component? at h
  split at h
  · cases h
  · rename_i htrivial
    obtain ⟨hnil, hhere⟩ := not_or.1 htrivial
    split at h
    · exact .inl (Option.some.inj h).symm
    · rename_i hup
      exact .inr ⟨⟨part, hnil, hhere, hup, hslash⟩, (Option.some.inj h).symm⟩

theorem isAbsolute_iff_exists : p.isAbsolute = true ↔ ∃ cs, p.bytes = slash :: cs := by
  rw [isAbsolute, beq_iff_eq, List.head?_eq_some_iff]

/-- After the slash of the root the text of a path is its own parts, whatever they are. -/
theorem exists_eq_rooted (h : p.isAbsolute = true) :
    ∃ parts, p = mk (rooted slash parts) ∧ parts ≠ [] ∧ ∀ part ∈ parts, slash ∉ part := by
  obtain ⟨text, htext⟩ := isAbsolute_iff_exists.1 h
  refine ⟨text.splitOn slash, ?_, List.splitOn_ne_nil _ _, fun _ => not_mem_of_mem_splitOn⟩
  rw [← cons_joinWith (List.splitOn_ne_nil _ _), Text.joinWith, List.intercalate_splitOn, ← htext]

theorem components_of_isAbsolute (h : p.isAbsolute = true) :
    ∃ moves, p.components = .root :: moves ∧ ∀ c ∈ moves, c.IsMove := by
  obtain ⟨parts, rfl, hne, hslash⟩ := exists_eq_rooted h
  refine ⟨parts.filterMap component?, components_rooted hne hslash, ?_⟩
  intro c hc
  obtain ⟨part, hpart, hcomponent⟩ := List.mem_filterMap.1 hc
  exact isMove_of_component? (hslash part hpart) hcomponent

/-- A normal form of names, held in reverse. -/
def reversed (names : List EntryName) : List Component :=
  names.map EntryName.component ++ [.root]

theorem exists_pushNormal_eq {c : Component} (h : c.IsMove) (names : List EntryName) :
    ∃ names', pushNormal (reversed names) c = reversed names' := by
  obtain rfl | ⟨name, rfl⟩ := h
  · cases names with
    -- above the root is the root
    | nil => exact ⟨[], rfl⟩
    | cons name names => exact ⟨names, rfl⟩
  · exact ⟨name :: names, rfl⟩

theorem exists_foldl_pushNormal_eq {moves : List Component} (h : ∀ c ∈ moves, c.IsMove)
    (names : List EntryName) :
    ∃ names', moves.foldl pushNormal (reversed names) = reversed names' := by
  induction moves generalizing names with
  | nil => exact ⟨names, rfl⟩
  | cons c moves ih =>
    obtain ⟨names', hpush⟩ := exists_pushNormal_eq (h c List.mem_cons_self) names
    rw [List.foldl_cons, hpush]
    exact ih (fun c hc => h c (List.mem_cons_of_mem _ hc)) names'

/-- **The normal form of an absolute path is the root and names.** -/
theorem exists_normalize_eq (h : p.isAbsolute = true) : ∃ names, p.normalize = ofNames names := by
  obtain ⟨moves, hcomponents, hmoves⟩ := components_of_isAbsolute h
  obtain ⟨names, hnames⟩ := exists_foldl_pushNormal_eq hmoves []
  have hnormal : normalComponents p.components =
      .root :: names.reverse.map EntryName.component := by
    rw [hcomponents, normalComponents, List.foldl_cons]
    exact (congrArg List.reverse hnames).trans (by simp [reversed])
  exact ⟨names.reverse, by rw [normalize, hnormal, ofNames]⟩

example : ((.ofText "/a/./b//../c.c") : Path).normalize = (.ofText "/a/c.c") := by decide

theorem isAbsolute_normalize_iff : p.normalize.isAbsolute = true ↔ p.isAbsolute = true := by
  constructor
  · exact isAbsolute_of_isAbsolute_normalize
  · intro h
    obtain ⟨names, hnames⟩ := exists_normalize_eq h
    rw [hnames, isAbsolute_ofNames]

theorem pushNormal_name (name : EntryName) (before : List Component) :
    pushNormal before name.component = name.component :: before :=
  rfl

theorem foldl_pushNormal_names (names : List EntryName) (before : List Component) :
    (names.map EntryName.component).foldl pushNormal before =
      (names.map EntryName.component).reverse ++ before := by
  induction names generalizing before with
  | nil => rfl
  | cons name names ih =>
    rw [List.map_cons, List.foldl_cons, pushNormal_name, ih, List.reverse_cons, List.append_assoc]
    rfl

@[simp] theorem normalize_ofNames (names : List EntryName) :
    (ofNames names).normalize = ofNames names := by
  have hfold := foldl_pushNormal_names names [.root]
  have hnormal : normalComponents (.root :: names.map EntryName.component) =
      .root :: names.map EntryName.component := by
    rw [normalComponents, List.foldl_cons]
    exact (congrArg List.reverse hfold).trans (by simp)
  rw [normalize, components_ofNames, hnormal, ofNames]

theorem normalize_eq_iff (hp : p.isAbsolute = true) (hq : q.isAbsolute = true) :
    p.normalize = q.normalize ↔ p.normalize.components = q.normalize.components := by
  refine ⟨congrArg components, fun h => ?_⟩
  obtain ⟨names, hnames⟩ := exists_normalize_eq hp
  obtain ⟨names', hnames'⟩ := exists_normalize_eq hq
  rw [hnames, hnames', components_ofNames, components_ofNames] at h
  rw [hnames, hnames', ofNames, ofNames, h]

end Path

end AsmExplorer
