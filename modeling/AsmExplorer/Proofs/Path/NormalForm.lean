import AsmExplorer.Proofs.Path.Joining
import Mathlib.Data.List.Basic

/-!
# Lexical normal forms

The normal form of a path is the root and names, or some steps up and then names
(`Path.NormalForm`).  It is found by going the steps of the path one after the other, from the root
or from the directory that the path is seen from: a name is entered, and `..` leaves the name before
it, goes up further if there is none, and stays at the root (`Path.NormalForm.enter`,
`Path.NormalForm.leave`).

* `Path.steps_join` : joining a relative path goes its steps after those of the other.
* `Path.exists_reaches` : every path reaches a normal form.
* `Path.Reaches.normalize_eq` : which is what it is normalized to.
* `Path.reaches_path` : a normal form, spelled, reaches itself.

So it makes no difference whether a path is normalized before another is joined to it
(`Path.normalize_lexical`).
-/

namespace AsmExplorer

namespace Path

variable {p p' q : Path} {c : Component} {moves : List Component}

/-! ### Steps of any path -/

theorem steps_slash (cs : List UInt8) : (mk (slash :: cs)).steps = (mk cs).steps := by
  have hparts : (mk (slash :: cs)).parts = [] :: (mk cs).parts := by
    rw [parts, parts, List.splitOn_cons_eq_if_modifyHead, if_pos (by rfl)]
  rw [steps, hparts, List.filterMap_cons_none rfl, steps]

theorem components_eq_root_cons_steps (h : p.isAbsolute = true) :
    p.components = .root :: p.steps := by
  obtain ⟨parts, rfl, hne, hslash⟩ := exists_eq_rooted h
  rw [components_rooted hne hslash, steps, parts_rooted hne hslash, List.filterMap_cons_none rfl]

theorem join_slash (hq : q.isAbsolute = false) :
    (mk (slash :: p.bytes)).join q = mk (slash :: (p.join q).bytes) := by
  simp only [join, hq, Bool.false_eq_true, if_false, reduceCtorEq, false_or]
  by_cases hempty : p.bytes = []
  · simp [hempty]
  · obtain ⟨d, cs, hbytes⟩ := List.exists_cons_of_ne_nil hempty
    rw [hbytes, List.getLast?_cons_cons]
    simp only [reduceCtorEq, false_or]
    split <;> rfl

/-- **Joining a relative path goes its steps after those of the other.** -/
theorem steps_join (hq : q.isAbsolute = false) : (p.join q).steps = p.steps ++ q.steps := by
  have hslash : ∀ r : Path, (mk (slash :: r.bytes)).components = .root :: r.steps := by
    intro r
    rw [components_eq_root_cons_steps (isAbsolute_iff_exists.2 ⟨r.bytes, rfl⟩), steps_slash]
  have hjoin := components_join (isAbsolute_iff_exists.2 ⟨p.bytes, rfl⟩) hq
  rw [join_slash hq, hslash, hslash, List.cons_append] at hjoin
  exact List.tail_eq_of_cons_eq hjoin

theorem isAbsolute_join_eq (hq : q.isAbsolute = false) : (p.join q).isAbsolute = p.isAbsolute := by
  cases hp : p.isAbsolute with
  | true => exact isAbsolute_join hp
  | false => exact isAbsolute_join_of_relative hp hq

theorem component?_bytes_of_isMove (h : c.IsMove) : component? c.bytes = some c := by
  obtain rfl | ⟨name, rfl⟩ := h
  · rfl
  · exact name.component?_bytes

theorem lead_bytes_of_isMove (h : c.IsMove) (rest : List (List UInt8)) :
    lead (c.bytes :: rest) = [] := by
  obtain rfl | ⟨name, rfl⟩ := h
  · rfl
  · exact (lead_cons_of_ne_nil name.ne_nil rest).trans (if_neg name.ne_here)

theorem components_ofComponents (h : ∀ c ∈ moves, c.IsMove) :
    (ofComponents moves).components = moves ∧ (ofComponents moves).steps = moves := by
  have hcomponents : (moves.map Component.bytes).filterMap component? = moves := by
    rw [List.filterMap_map]
    refine Eq.trans (List.filterMap_congr fun c hc => ?_) List.filterMap_some
    exact component?_bytes_of_isMove (h c hc)
  cases moves with
  | nil => exact ⟨rfl, rfl⟩
  | cons first rest =>
    have hslash : ∀ part ∈ (first :: rest).map Component.bytes, slash ∉ part := by
      intro part hpart
      obtain ⟨c, hc, rfl⟩ := List.mem_map.1 hpart
      obtain rfl | ⟨name, rfl⟩ := h c hc
      · decide
      · exact name.slash_not_mem
    have hfirst : first.IsMove := h first List.mem_cons_self
    have hparts :
        (ofComponents (first :: rest)).parts = first.bytes :: rest.map Component.bytes := by
      have hspelled : ofComponents (first :: rest) =
          mk (Text.joinWith [slash] ((first :: rest).map Component.bytes)) := by
        obtain rfl | ⟨name, rfl⟩ := hfirst <;> rfl
      rw [hspelled, parts, Text.joinWith,
        List.splitOn_intercalate slash hslash (by simp), List.map_cons]
    have hsteps : (ofComponents (first :: rest)).steps = first :: rest := by
      rw [steps, hparts]
      exact hcomponents
    refine ⟨?_, hsteps⟩
    rw [components, hparts, lead_bytes_of_isMove hfirst, List.nil_append, hsteps]

/-! ### Normal forms -/

/-- What a normal form consists of. -/
inductive NormalForm where
  /-- The root and names. -/
  | rooted (names : List EntryName)
  /-- Steps up and then names. -/
  | relative (ups : Nat) (names : List EntryName)

namespace NormalForm

/-- The components of a normal form. -/
def components : NormalForm → List Component
  | rooted names => .root :: names.map EntryName.component
  | relative ups names => List.replicate ups .up ++ names.map EntryName.component

/-- Whether a normal form starts at the root. -/
def isRooted : NormalForm → Bool
  | rooted _ => true
  | relative _ _ => false

/-- The spelling of a normal form. -/
def path (f : NormalForm) : Path :=
  ofComponents f.components

/-- Where a path starts: at the root, or where it is seen from. -/
def start (absolute : Bool) : NormalForm :=
  if absolute then rooted [] else relative 0 []

/-- The normal form with a name entered. -/
def enter (name : EntryName) : NormalForm → NormalForm
  | rooted names => rooted (names ++ [name])
  | relative ups names => relative ups (names ++ [name])

/-- The normal form with the last name left, or one more step up if there is none. -/
def leave : NormalForm → NormalForm
  | rooted names => rooted names.dropLast
  | relative ups [] => relative (ups + 1) []
  | relative ups (name :: names) => relative ups (name :: names).dropLast

variable {f : NormalForm} {name : EntryName}

@[simp] theorem isRooted_enter : (f.enter name).isRooted = f.isRooted := by
  cases f <;> rfl

@[simp] theorem isRooted_leave : f.leave.isRooted = f.isRooted := by
  cases f with
  | rooted _ => rfl
  | relative _ names => cases names <;> rfl

@[simp] theorem isRooted_start (absolute : Bool) : (start absolute).isRooted = absolute := by
  cases absolute <;> rfl

@[simp] theorem components_enter :
    (f.enter name).components = f.components ++ [name.component] := by
  cases f <;> simp [enter, components]

theorem pushNormal_enter :
    pushNormal f.components.reverse name.component = (f.enter name).components.reverse := by
  rw [pushNormal_name, components_enter, List.reverse_concat]

theorem pushNormal_ups (ups : Nat) :
    pushNormal (List.replicate ups .up) .up = List.replicate (ups + 1) .up := by
  cases ups <;> rfl

@[simp] theorem leave_enter : (f.enter name).leave = f := by
  cases f with
  | rooted names => simp [enter, leave]
  | relative ups names =>
    cases names with
    | nil => rfl
    | cons first rest =>
      rw [enter, List.cons_append, leave, ← List.cons_append, List.dropLast_concat]

theorem cases_enter (f : NormalForm) :
    f = rooted [] ∨ (∃ ups, f = relative ups []) ∨ ∃ f' name, f = enter name f' := by
  cases f with
  | rooted names =>
    obtain rfl | ⟨names, name, rfl⟩ := List.eq_nil_or_concat names
    · exact .inl rfl
    · exact .inr (.inr ⟨rooted names, name, by rw [enter, List.concat_eq_append]⟩)
  | relative ups names =>
    obtain rfl | ⟨names, name, rfl⟩ := List.eq_nil_or_concat names
    · exact .inr (.inl ⟨ups, rfl⟩)
    · exact .inr (.inr ⟨relative ups names, name, by rw [enter, List.concat_eq_append]⟩)

theorem pushNormal_leave (f : NormalForm) :
    pushNormal f.components.reverse .up = f.leave.components.reverse := by
  obtain rfl | ⟨ups, rfl⟩ | ⟨f, name, rfl⟩ := f.cases_enter
  · rfl
  · simp [leave, components, pushNormal_ups]
  · rw [leave_enter, components_enter, List.reverse_concat]
    rfl

theorem exists_pushNormal_eq (f : NormalForm) (h : c.IsMove) :
    ∃ f' : NormalForm, f'.isRooted = f.isRooted ∧
      pushNormal f.components.reverse c = f'.components.reverse := by
  obtain rfl | ⟨name, rfl⟩ := h
  · exact ⟨f.leave, isRooted_leave, f.pushNormal_leave⟩
  · exact ⟨f.enter name, isRooted_enter, pushNormal_enter⟩

theorem exists_foldl_pushNormal_eq (f : NormalForm) (h : ∀ c ∈ moves, c.IsMove) :
    ∃ f' : NormalForm, f'.isRooted = f.isRooted ∧
      moves.foldl pushNormal f.components.reverse = f'.components.reverse := by
  induction moves generalizing f with
  | nil => exact ⟨f, rfl, rfl⟩
  | cons c moves ih =>
    obtain ⟨next, hrooted, hpush⟩ := f.exists_pushNormal_eq (h c List.mem_cons_self)
    obtain ⟨f', hrooted', hfold⟩ := ih next fun c hc => h c (List.mem_cons_of_mem _ hc)
    exact ⟨f', hrooted'.trans hrooted, by rw [List.foldl_cons, hpush, hfold]⟩

theorem foldl_pushNormal_ups (ups : Nat) :
    (List.replicate ups Component.up).foldl pushNormal [] = List.replicate ups .up := by
  induction ups with
  | zero => rfl
  | succ ups ih =>
    rw [List.replicate_succ', List.foldl_append, ih]
    rw [List.foldl_cons, List.foldl_nil, pushNormal_ups, List.replicate_succ']

end NormalForm

/-! ### The normal form of a path -/

/-- The steps of a path, from where it starts, lead to a normal form. -/
structure Reaches (p : Path) (f : NormalForm) : Prop where
  /-- They start at the same place. -/
  isRooted : f.isRooted = p.isAbsolute
  /-- The steps lead there. -/
  foldl : p.steps.foldl pushNormal (NormalForm.start p.isAbsolute).components.reverse =
    f.components.reverse

theorem exists_reaches (p : Path) : ∃ f, p.Reaches f := by
  have hmoves : ∀ c ∈ p.steps, c.IsMove := fun _ => isMove_of_mem_steps
  obtain ⟨f, hrooted, hfold⟩ := (NormalForm.start p.isAbsolute).exists_foldl_pushNormal_eq hmoves
  exact ⟨f, by rwa [NormalForm.isRooted_start] at hrooted, hfold⟩

/-- Of the components of a path only the steps matter, and where it starts. -/
theorem foldl_components (p : Path) : p.components.foldl pushNormal [] =
    p.steps.foldl pushNormal (NormalForm.start p.isAbsolute).components.reverse := by
  cases hp : p.isAbsolute with
  | true =>
    rw [components_eq_root_cons_steps hp]
    rfl
  | false =>
    obtain hcomponents | hcomponents := components_eq_steps_or hp
    · rw [hcomponents]
      rfl
    · rw [hcomponents]
      rfl

namespace Reaches

variable {f : NormalForm}

theorem normalize_eq (h : p.Reaches f) : p.normalize = f.path := by
  rw [normalize, normalComponents, foldl_components, h.foldl, List.reverse_reverse, NormalForm.path]

theorem normalize_join (h : p.Reaches f) (hq : q.isAbsolute = false) :
    (p.join q).normalize =
      ofComponents (q.steps.foldl pushNormal f.components.reverse).reverse := by
  rw [normalize, normalComponents, foldl_components, isAbsolute_join_eq hq, steps_join hq,
    List.foldl_append, h.foldl]

end Reaches

namespace NormalForm

variable (f : NormalForm)

theorem isMove_of_mem_relative {ups : Nat} {names : List EntryName}
    (h : c ∈ (relative ups names).components) : c.IsMove := by
  obtain h | h := List.mem_append.1 h
  · exact .inl (List.eq_of_mem_replicate h)
  · obtain ⟨name, -, rfl⟩ := List.mem_map.1 h
    exact .inr ⟨name, rfl⟩

theorem isAbsolute_path : f.path.isAbsolute = f.isRooted := by
  cases f with
  | rooted names => exact isAbsolute_ofNames names
  | relative ups names =>
    refine isAbsolute_ofComponents fun c hc => ?_
    have hmove : c.IsMove := isMove_of_mem_relative hc
    obtain ⟨part, hslash, hpart⟩ : ∃ part, slash ∉ part ∧ component? part = some c := by
      refine ⟨c.bytes, ?_, component?_bytes_of_isMove hmove⟩
      obtain rfl | ⟨name, rfl⟩ := hmove
      · decide
      · exact name.slash_not_mem
    exact isStep_of_component? hslash hpart

@[simp] theorem components_path : f.path.components = f.components := by
  cases f with
  | rooted names => exact components_ofNames names
  | relative ups names => exact (components_ofComponents fun _ => isMove_of_mem_relative).1

end NormalForm

theorem reaches_path (f : NormalForm) : f.path.Reaches f where
  isRooted := f.isAbsolute_path.symm
  foldl := by
    rw [← foldl_components, f.components_path]
    cases f with
    | rooted names =>
      rw [NormalForm.components, List.reverse_cons]
      exact foldl_pushNormal_names names [.root]
    | relative ups names =>
      rw [NormalForm.components, List.foldl_append, NormalForm.foldl_pushNormal_ups,
        foldl_pushNormal_names, List.reverse_append, List.reverse_replicate]

theorem Reaches.components_join_move {f f' : NormalForm} (h : p.Reaches f) (hc : c.IsMove)
    (hpush : pushNormal f.components.reverse c = f'.components.reverse) :
    (p.join ⟨c.bytes⟩).normalize.components = f'.components := by
  obtain ⟨hrelative, hsteps⟩ := steps_move hc
  rw [h.normalize_join hrelative, hsteps, List.foldl_cons, List.foldl_nil, hpush,
    List.reverse_reverse, ← NormalForm.path, NormalForm.components_path]

/-- The components after `..`: the last name is left, at the root nothing changes, and otherwise
there is one more step up. -/
def leaveLast (cs : List Component) : List Component :=
  match cs.getLast? with
  | some (.name _) => cs.dropLast
  | some .root => cs
  | _ => cs ++ [.up]

theorem NormalForm.components_leave (f : NormalForm) :
    f.leave.components = leaveLast f.components := by
  obtain rfl | ⟨ups, rfl⟩ | ⟨f, name, rfl⟩ := f.cases_enter
  · rfl
  · cases ups with
    | zero => rfl
    | succ ups =>
      have hlast : (relative (ups + 1) []).components.getLast? = some .up := by
        simp [components, List.replicate_succ']
      rw [leaveLast, hlast]
      simp [leave, components, List.replicate_succ']
  · rw [leave_enter, leaveLast, components_enter, List.getLast?_concat]
    exact List.dropLast_concat.symm

theorem NormalForm.exists_components_eq (f : NormalForm) :
    .here ∉ f.components ∧ ∃ ups rest, f.components = List.replicate ups .up ++ rest ∧ .up ∉ rest ∧
      (f.isRooted = true → ups = 0) := by
  cases f with
  | rooted names =>
    refine ⟨?_, 0, _, rfl, ?_, fun _ => rfl⟩
    · simp [components, EntryName.component]
    · simp [EntryName.component]
  | relative ups names =>
    refine ⟨?_, ups, _, rfl, ?_, fun hrooted => ?_⟩
    · simp [components, EntryName.component]
    · simp [EntryName.component]
    · cases hrooted

/-- **Normalizing finds the lexical normal form.**  It has no `.`, and `..` only at its start and
only if the path is relative; it is absolute exactly if the path is, and is its own normal form.
Joining a path to it gives the same normal form as joining it to the path itself: a name is
appended, and `..` leaves the last name, if there is one. -/
theorem normalize_lexical (p : Path) :
    .here ∉ p.normalize.components ∧
      (∃ ups rest, p.normalize.components = List.replicate ups .up ++ rest ∧ .up ∉ rest ∧
        (p.isAbsolute = true → ups = 0)) ∧
      p.normalize.isAbsolute = p.isAbsolute ∧
      p.normalize.normalize = p.normalize ∧
      (∀ q, (p.join q).normalize = (p.normalize.join q).normalize) ∧
      (∀ name : EntryName, (p.join ⟨name.bytes⟩).normalize.components =
        p.normalize.components ++ [name.component]) ∧
      (p.join ⟨[dot, dot]⟩).normalize.components = leaveLast p.normalize.components := by
  obtain ⟨f, hf⟩ := p.exists_reaches
  obtain ⟨hhere, hups⟩ := f.exists_components_eq
  rw [hf.normalize_eq, f.components_path, f.isAbsolute_path, ← hf.isRooted]
  refine ⟨hhere, hups, rfl, (reaches_path f).normalize_eq, fun q => ?_, fun name => ?_, ?_⟩
  · cases hq : q.isAbsolute with
    | true => rw [join_of_isAbsolute hq, join_of_isAbsolute hq]
    | false => rw [hf.normalize_join hq, (reaches_path f).normalize_join hq]
  · rw [← NormalForm.components_enter]
    exact hf.components_join_move (c := name.component) (.inr ⟨name, rfl⟩)
      NormalForm.pushNormal_enter
  · rw [← f.components_leave]
    exact hf.components_join_move (c := .up) (.inl rfl) f.pushNormal_leave

end Path

end AsmExplorer
