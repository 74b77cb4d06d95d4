import AsmExplorer.Path

/-!
# Relative paths stay relative

The lexical normal form of a path consists of components of the path, in another order or fewer of
them (`Path.mem_normalComponents`), and a relative path has no root among its components.  So a path
whose normal form starts at the root starts there itself
(`Path.isAbsolute_of_isAbsolute_normalize`).
-/

namespace AsmExplorer

namespace Path

variable {p : Path} {c : Component} {cs : List Component}

theorem not_mem_of_mem_splitOn {α : Type} [DecidableEq α] {mark : α} {text part : List α}
    (h : part ∈ text.splitOn mark) : mark ∉ part := by
  induction text generalizing part with
  | nil =>
    rw [List.splitOn_nil, List.mem_singleton] at h
    simp [h]
  | cons d text ih =>
    rw [List.splitOn_cons_eq_if_modifyHead] at h
    split at h
    · obtain rfl | h := List.mem_cons.1 h
      · simp
      · exact ih h
    · rename_i hd
      obtain ⟨first, rest, hcons⟩ := List.exists_cons_of_ne_nil (List.splitOn_ne_nil mark text)
      rw [hcons, List.modifyHead_cons] at h
      obtain rfl | h := List.mem_cons.1 h
      · have hfirst : mark ∉ first := ih (hcons ▸ List.mem_cons_self)
        rw [List.mem_cons, not_or]
        exact ⟨fun heq => hd (by simp [heq]), hfirst⟩
      · exact ih (hcons ▸ List.mem_cons_of_mem _ h)

@[simp] theorem dot_ne_slash : dot ≠ slash := by
  decide

/-! ### Components -/

/-- The spelling of a component between slashes shows that it is there, and is not that of the
root. -/
def Component.IsStep (c : Component) : Prop :=
  c.bytes ≠ [] ∧ c.bytes.head? ≠ some slash

theorem isStep_of_component? {part : List UInt8} (hslash : slash ∉ part)
    (h : component? part = some c) : c.IsStep := by
  unfold component? at h
  split at h
  · cases h
  · rename_i hpart
    split at h
    · obtain rfl := Option.some.inj h
      exact ⟨by simp [Component.bytes], by simp [Component.bytes]⟩
    · obtain rfl := Option.some.inj h
      refine ⟨fun hnil => hpart (.inl hnil), fun hhead => hslash ?_⟩
      exact List.mem_of_head? hhead

theorem lead_cons_of_ne_nil {first : List UInt8} (h : first ≠ []) (rest : List (List UInt8)) :
    lead (first :: rest) = if first = [dot] then [.here] else [] := by
  obtain ⟨b, bytes, rfl⟩ := List.exists_cons_of_ne_nil h
  cases rest <;> rfl

theorem isStep_of_mem_lead (hrelative : p.isAbsolute = false) (h : c ∈ lead p.parts) :
    c.IsStep := by
  unfold lead at h
  split at h
  · rename_i second rest hparts
    -- only bytes that start with a slash have an empty first part and others after it
    exfalso
    cases hbytes : p.bytes with
    | nil => simp [parts, hbytes] at hparts
    | cons b bytes =>
      have hb : b ≠ slash := by
        rintro rfl
        simp [isAbsolute, hbytes] at hrelative
      obtain ⟨first, more, hcons⟩ := List.exists_cons_of_ne_nil (List.splitOn_ne_nil slash bytes)
      simp [parts, hbytes, List.splitOn_cons_eq_if_modifyHead, hb, hcons] at hparts
  · split at h
    · obtain rfl := List.mem_singleton.1 h
      exact ⟨by simp [Component.bytes], by simp [Component.bytes]⟩
    · cases h
  · cases h

theorem isStep_of_mem_components (hrelative : p.isAbsolute = false) (h : c ∈ p.components) :
    c.IsStep := by
  obtain h | h := List.mem_append.1 h
  · exact isStep_of_mem_lead hrelative h
  · obtain ⟨part, hpart, hc⟩ := List.mem_filterMap.1 h
    exact isStep_of_component? (not_mem_of_mem_splitOn hpart) hc

/-! ### Normal forms -/

theorem mem_pushNormal {reversed : List Component} {pushed : Component}
    (h : c ∈ pushNormal reversed pushed) : c ∈ reversed ∨ c = pushed := by
  unfold pushNormal at h
  split at h
  · exact .inl h
  · split at h
    · exact .inl (List.mem_cons_of_mem _ h)
    · exact .inl h
    · exact (List.mem_cons.1 h).symm
  · exact (List.mem_cons.1 h).symm

theorem mem_normalComponents (h : c ∈ normalComponents cs) : c ∈ cs := by
  have hfold : ∀ {cs reversed : List Component}, c ∈ cs.foldl pushNormal reversed →
      c ∈ reversed ∨ c ∈ cs := by
    intro cs
    induction cs with
    | nil => exact fun h => .inl h
    | cons first cs ih =>
      intro reversed h
      obtain h | h := ih h
      · obtain h | rfl := mem_pushNormal h
        · exact .inl h
        · exact .inr List.mem_cons_self
      · exact .inr (List.mem_cons_of_mem _ h)
  exact (hfold (List.mem_reverse.1 h)).resolve_left List.not_mem_nil

theorem isAbsolute_ofComponents (h : ∀ c ∈ cs, c.IsStep) :
    (ofComponents cs).isAbsolute = false := by
  cases cs with
  | nil => rfl
  | cons first cs =>
    obtain ⟨hne, hhead⟩ := h first List.mem_cons_self
    have hspelled : (ofComponents (first :: cs)).bytes =
        Text.joinWith [slash] ((first :: cs).map Component.bytes) := by
      cases first with
      | root => exact absurd rfl hne
      | here | up | name _ => simp [ofComponents]
    obtain ⟨d, text, htext⟩ := List.exists_cons_of_ne_nil hne
    have hd : d ≠ slash := fun heq => hhead (by rw [htext, heq]; rfl)
    cases cs with
    | nil => simp [isAbsolute, hspelled, Text.joinWith, htext, hd]
    | cons second cs =>
      simp [isAbsolute, hspelled, Text.joinWith, htext, hd, List.intercalate_cons_cons]

/-- **A path whose normal form starts at the root starts there.** -/
theorem isAbsolute_of_isAbsolute_normalize (h : p.normalize.isAbsolute = true) :
    p.isAbsolute = true := by
  cases hp : p.isAbsolute with
  | true => rfl
  | false =>
    have hrelative : p.normalize.isAbsolute = false :=
      isAbsolute_ofComponents fun c hc => isStep_of_mem_components hp (mem_normalComponents hc)
    exact hrelative.symm.trans h

end Path

end AsmExplorer
