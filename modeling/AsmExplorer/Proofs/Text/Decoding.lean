import AsmExplorer.Proofs.Text.Percent
import Mathlib.Data.List.Basic

/-!
# What bytes are read as

Reading divides bytes into parts: the bytes of a character are read as that character, and every
other part is ill formed (`divided_decodeParts`).  A sequence in progress is one that any bytes
within its bounds complete to a character (`Pending.After`), which the first byte ensures
(`Lead.after_ofByte?`) and each further byte preserves (`Pending.After.next`).

So bytes that are read as a text are those of the text (`decode?_eq_some_iff`).  An ASCII byte
stands for its character wherever it is, and nothing else does (`decodeLossy_append_ascii`,
`asciiChar_mem_decodeLossy_iff`).  Hence a mark divides the bytes where it divides the text that is
shown for them (`splitLast_decodeLossy`).
-/

namespace AsmExplorer.Text

variable {b : UInt8} {bytes seen : List UInt8} {c : Char}

/-! ### The bytes of a character -/

theorem toNat_val_ofNat {v : Nat} (hv : v.isValidChar) : (Char.ofNat v).val.toNat = v := by
  unfold Char.ofNat
  rw [dif_pos hv]
  rfl

theorem ofNat_eq {n : Nat} (h : b.toNat = n) : UInt8.ofNat n = b := by
  rw [← h, UInt8.ofNat_toNat]

theorem utf8EncodeChar_one (hb : b.toNat < 0x80) :
    String.utf8EncodeChar (Char.ofNat b.toNat) = [b] := by
  have hval := toNat_val_ofNat (v := b.toNat) (.inl (by omega))
  simp only [String.utf8EncodeChar, hval]
  rw [if_pos (by omega), UInt8.ofNat_toNat]

variable {v : Nat} {b₁ b₂ b₃ b₄ : UInt8}

theorem utf8EncodeChar_two (hv : 0x80 ≤ v ∧ v ≤ 0x7FF) (h₁ : b₁.toNat = v / 64 + 0xC0)
    (h₂ : b₂.toNat = v % 0x40 + 0x80) : String.utf8EncodeChar (Char.ofNat v) = [b₁, b₂] := by
  have hval := toNat_val_ofNat (v := v) (.inl (by omega))
  simp only [String.utf8EncodeChar, hval]
  rw [if_neg (by omega), if_pos hv.2, Nat.mod_eq_of_lt (by omega), ofNat_eq h₁, ofNat_eq h₂]

theorem utf8EncodeChar_three (hv : 0x800 ≤ v ∧ v ≤ 0xFFFF) (hvalid : v < 0xD800 ∨ 0xDFFF < v)
    (h₁ : b₁.toNat = v / 4096 + 0xE0) (h₂ : b₂.toNat = v / 64 % 0x40 + 0x80)
    (h₃ : b₃.toNat = v % 0x40 + 0x80) :
    String.utf8EncodeChar (Char.ofNat v) = [b₁, b₂, b₃] := by
  have hval := toNat_val_ofNat (v := v) (hvalid.imp_right fun h => ⟨h, by omega⟩)
  simp only [String.utf8EncodeChar, hval]
  rw [if_neg (by omega), if_neg (by omega), if_pos hv.2, Nat.mod_eq_of_lt (by omega), ofNat_eq h₁,
    ofNat_eq h₂, ofNat_eq h₃]

theorem utf8EncodeChar_four (hv : 0x10000 ≤ v ∧ v < 0x110000)
    (h₁ : b₁.toNat = v / 262144 + 0xF0) (h₂ : b₂.toNat = v / 4096 % 0x40 + 0x80)
    (h₃ : b₃.toNat = v / 64 % 0x40 + 0x80) (h₄ : b₄.toNat = v % 0x40 + 0x80) :
    String.utf8EncodeChar (Char.ofNat v) = [b₁, b₂, b₃, b₄] := by
  have hval := toNat_val_ofNat (v := v) (.inr ⟨by omega, hv.2⟩)
  simp only [String.utf8EncodeChar, hval]
  rw [if_neg (by omega), if_neg (by omega), if_neg (by omega), Nat.mod_eq_of_lt (by omega),
    ofNat_eq h₁, ofNat_eq h₂, ofNat_eq h₃, ofNat_eq h₄]

/-! ### Sequences in progress -/

/-- Bytes that may complete a sequence: as many as are missing, the first one within the bounds. -/
structure Pending.Completes (p : Pending) (more : List UInt8) : Prop where
  length_eq : more.length = p.missing
  head : ∀ b ∈ more.head?, p.low ≤ b.toNat ∧ b.toNat ≤ p.high
  tail : ∀ b ∈ more.tail, 0x80 ≤ b.toNat ∧ b.toNat ≤ 0xBF

/-- The value that bytes complete a sequence to. -/
def Pending.total (p : Pending) (more : List UInt8) : Nat :=
  more.foldl (fun value b => value * 64 + (b.toNat - 0x80)) p.value

/-- A sequence that the bytes `seen` started: whatever completes it makes with them the bytes of one
character. -/
structure Pending.After (p : Pending) (seen : List UInt8) : Prop where
  missing_pos : 0 < p.missing
  low_ge : 0x80 ≤ p.low
  encode_eq : ∀ more, p.Completes more →
    String.utf8EncodeChar (Char.ofNat (p.total more)) = seen ++ more

section Starts

variable {bits low high : Nat}

theorem after_two (hbits : 2 ≤ bits ∧ bits < 0x20) (hb : b.toNat = bits + 0xC0) :
    Pending.After ⟨1, bits, 0x80, 0xBF⟩ [b] := by
  refine ⟨Nat.one_pos, Nat.le_refl _, fun more hmore => ?_⟩
  obtain ⟨b₂, rfl⟩ := List.length_eq_one_iff.1 hmore.length_eq
  have h₂ := hmore.head b₂ rfl
  generalize hv : Pending.total ⟨1, bits, 0x80, 0xBF⟩ [b₂] = v
  simp only [Pending.total, List.foldl_cons, List.foldl_nil] at hv h₂
  exact utf8EncodeChar_two (by omega) (by omega) (by omega)

/-- The least second byte leaves out what two bytes are enough for, the greatest one the
surrogates. -/
theorem after_three (hbits : bits < 0x10) (hb : b.toNat = bits + 0xE0)
    (hlow : 0x80 ≤ low ∧ (bits = 0 → 0xA0 ≤ low))
    (hhigh : high ≤ 0xBF ∧ (bits = 0xD → high ≤ 0x9F)) :
    Pending.After ⟨2, bits, low, high⟩ [b] := by
  refine ⟨Nat.two_pos, hlow.1, fun more hmore => ?_⟩
  obtain ⟨b₂, b₃, rfl⟩ := List.length_eq_two.1 hmore.length_eq
  have h₂ := hmore.head b₂ rfl
  have h₃ := hmore.tail b₃ (by simp)
  generalize hv : Pending.total ⟨2, bits, low, high⟩ [b₂, b₃] = v
  simp only [Pending.total, List.foldl_cons, List.foldl_nil] at hv h₂
  exact utf8EncodeChar_three (by omega) (by omega) (by omega) (by omega) (by omega)

/-- The least second byte leaves out what three bytes are enough for, the greatest one what is no
character. -/
theorem after_four (hbits : bits < 5) (hb : b.toNat = bits + 0xF0)
    (hlow : 0x80 ≤ low ∧ (bits = 0 → 0x90 ≤ low))
    (hhigh : high ≤ 0xBF ∧ (bits = 4 → high ≤ 0x8F)) :
    Pending.After ⟨3, bits, low, high⟩ [b] := by
  refine ⟨Nat.succ_pos 2, hlow.1, fun more hmore => ?_⟩
  obtain ⟨b₂, b₃, b₄, rfl⟩ := List.length_eq_three.1 hmore.length_eq
  have h₂ := hmore.head b₂ rfl
  have h₃ := hmore.tail b₃ (by simp)
  have h₄ := hmore.tail b₄ (by simp)
  generalize hv : Pending.total ⟨3, bits, low, high⟩ [b₂, b₃, b₄] = v
  simp only [Pending.total, List.foldl_cons, List.foldl_nil] at hv h₂
  exact utf8EncodeChar_four (by omega) (by omega) (by omega) (by omega) (by omega)

end Starts

theorem Lead.after_ofByte? {lead : Lead} (h : Lead.ofByte? b = some lead) :
    Pending.After ⟨lead.more, lead.bits, lead.low, lead.high⟩ [b] := by
  simp only [Lead.ofByte?] at h
  split at h
  · obtain rfl := Option.some.inj h
    dsimp only
    exact after_two (by omega) (by omega)
  split at h
  · obtain rfl := Option.some.inj h
    dsimp only
    exact after_three (by omega) (by omega) (by omega) (by omega)
  split at h
  · obtain rfl := Option.some.inj h
    dsimp only
    exact after_three (by omega) (by omega) (by omega) (by omega)
  split at h
  · obtain rfl := Option.some.inj h
    dsimp only
    exact after_three (by omega) (by omega) (by omega) (by omega)
  split at h
  · obtain rfl := Option.some.inj h
    dsimp only
    exact after_four (by omega) (by omega) (by omega) (by omega)
  split at h
  · obtain rfl := Option.some.inj h
    dsimp only
    exact after_four (by omega) (by omega) (by omega) (by omega)
  split at h
  · obtain rfl := Option.some.inj h
    dsimp only
    exact after_four (by omega) (by omega) (by omega) (by omega)
  · cases h

theorem Pending.After.next {p : Pending} (h : p.After seen)
    (hb : p.low ≤ b.toNat ∧ b.toNat ≤ p.high) (hmore : 1 < p.missing) :
    Pending.After ⟨p.missing - 1, p.value * 64 + (b.toNat - 0x80), 0x80, 0xBF⟩ (seen ++ [b]) := by
  refine ⟨Nat.sub_pos_of_lt hmore, Nat.le_refl _, fun more hcompletes => ?_⟩
  have hlength : more.length = p.missing - 1 := hcompletes.length_eq
  have hall : ∀ b' ∈ more, 0x80 ≤ b'.toNat ∧ b'.toNat ≤ 0xBF := by
    cases more with
    | nil => simp
    | cons b' more =>
      exact List.forall_mem_cons.2 ⟨hcompletes.head b' rfl, hcompletes.tail⟩
  have hcons : p.Completes (b :: more) :=
    ⟨by rw [List.length_cons]; omega, by simpa using hb, hall⟩
  have htotal : p.total (b :: more) = Pending.total
      ⟨p.missing - 1, p.value * 64 + (b.toNat - 0x80), 0x80, 0xBF⟩ more := by
    rw [Pending.total, Pending.total, List.foldl_cons]
  rw [← htotal, h.encode_eq (b :: more) hcons, List.append_cons]

theorem Pending.After.last {p : Pending} (h : p.After seen)
    (hb : p.low ≤ b.toNat ∧ b.toNat ≤ p.high) (hlast : p.missing ≤ 1) :
    String.utf8EncodeChar (Char.ofNat (p.value * 64 + (b.toNat - 0x80))) = seen ++ [b] := by
  have hone : p.missing = 1 := Nat.le_antisymm hlast h.missing_pos
  exact h.encode_eq [b] ⟨hone.symm, by simpa using hb, by simp⟩

/-! ### Parts -/

/-- A byte that does not continue the sequence in progress is read afresh. -/
theorem decodeParts_break {p : Pending} (h : ¬(p.low ≤ b.toNat ∧ b.toNat ≤ p.high))
    (rest : List UInt8) :
    decodeParts (some p) (b :: rest) = none :: decodeParts none (b :: rest) := by
  rw [decodeParts_some_cons, decodeParts_none_cons, Pending.feed, if_neg h]
  rfl

theorem decodeParts_stray (h : Lead.ofByte? b = none) (hb : 0x80 ≤ b.toNat) (rest : List UInt8) :
    decodeParts none (b :: rest) = none :: decodeParts none rest := by
  rw [decodeParts_none_cons, startSequence, if_neg (Nat.not_lt.2 hb), h]
  rfl

/-- Bytes and the parts that they are divided into: characters, and what is ill formed. -/
inductive Divided : List UInt8 → List (Option Char) → Prop
  | nil : Divided [] []
  | char {rest : List UInt8} {parts : List (Option Char)} (c : Char) (h : Divided rest parts) :
    Divided (String.utf8EncodeChar c ++ rest) (some c :: parts)
  | ill {rest : List UInt8} {parts : List (Option Char)} (part : List UInt8)
    (h : Divided rest parts) : Divided (part ++ rest) (none :: parts)

/-- **Reading divides bytes into characters and ill formed parts**, also after the bytes of a
sequence in progress. -/
theorem divided_decodeParts (bytes : List UInt8) :
    Divided bytes (decodeParts none bytes) ∧ ∀ (p : Pending) (seen : List UInt8), p.After seen →
      Divided (seen ++ bytes) (decodeParts (some p) bytes) := by
  induction bytes with
  | nil => exact ⟨.nil, fun p seen _ => .ill seen .nil⟩
  | cons b rest ih =>
    have hnone : Divided (b :: rest) (decodeParts none (b :: rest)) := by
      by_cases hb : b.toNat < 0x80
      · rw [decodeParts_start rest hb]
        have hchar := ih.1.char (Char.ofNat b.toNat)
        rwa [utf8EncodeChar_one hb] at hchar
      · cases hlead : Lead.ofByte? b with
        | none =>
          rw [decodeParts_stray hlead (Nat.not_lt.1 hb)]
          exact ih.1.ill [b]
        | some lead =>
          rw [decodeParts_lead rest hlead (Nat.not_lt.1 hb)]
          exact ih.2 _ [b] (Lead.after_ofByte? hlead)
    refine ⟨hnone, fun p seen hp => ?_⟩
    by_cases hb : p.low ≤ b.toNat ∧ b.toNat ≤ p.high
    · rw [List.append_cons]
      by_cases hmore : 1 < p.missing
      · rw [decodeParts_more rest hb hmore]
        exact ih.2 _ _ (hp.next hb hmore)
      · rw [decodeParts_last rest hb (Nat.not_lt.1 hmore), ← hp.last hb (Nat.not_lt.1 hmore)]
        exact ih.1.char _
    · rw [decodeParts_break hb]
      exact hnone.ill seen

/-! ### Texts -/

theorem Divided.eq_utf8 {cs : List Char} (h : Divided bytes (cs.map some)) : bytes = utf8 cs := by
  induction cs generalizing bytes with
  | nil =>
    cases h
    rfl
  | cons c cs ih =>
    cases h with
    | char _ h => rw [ih h, utf8, utf8, List.flatMap_cons]

theorem eq_map_some_of_mapM_id {α : Type} {parts : List (Option α)} {as : List α}
    (h : parts.mapM id = some as) : parts = as.map some := by
  induction parts generalizing as with
  | nil =>
    obtain rfl : [] = as := by simpa using h
    rfl
  | cons part parts ih =>
    obtain ⟨a, rfl, rest, hrest, rfl⟩ : ∃ a, part = some a ∧ ∃ rest, parts.mapM id = some rest ∧
        a :: rest = as := by
      simpa [List.mapM_cons, Option.bind_eq_some_iff] using h
    rw [List.map_cons, ← ih hrest]

/-- **Bytes that are read as a text are those of the text.** -/
theorem decode?_eq_some_iff {cs : List Char} : decode? bytes = some cs ↔ bytes = utf8 cs := by
  constructor
  · intro h
    have hparts : decodeParts none bytes = cs.map some := eq_map_some_of_mapM_id h
    exact (hparts ▸ (divided_decodeParts bytes).1).eq_utf8
  · rintro rfl
    exact decode?_utf8 cs

theorem Divided.subset_of_mem {parts : List (Option Char)} (h : Divided bytes parts)
    (hc : some c ∈ parts) : String.utf8EncodeChar c ⊆ bytes := by
  induction h with
  | nil => cases hc
  | char d _ ih =>
    obtain heq | hc := List.mem_cons.1 hc
    · rw [Option.some.inj heq]
      exact List.subset_append_left _ _
    · exact List.Subset.trans (ih hc) (List.subset_append_right _ _)
  | ill part _ ih =>
    have hrest := ih ((List.mem_cons.1 hc).resolve_left (by simp))
    exact List.Subset.trans hrest (List.subset_append_right _ _)

/-! ### Bytes as they are shown -/

theorem eq_utf8_of_decodeLossy_eq {cs : List Char} (h : decodeLossy bytes = cs)
    (hcs : '\ufffd' ∉ cs) : bytes = utf8 cs := by
  have hparts : decodeParts none bytes = cs.map some := by
    rw [← h, decodeLossy, List.map_map]
    refine (List.map_id _).symm.trans (List.map_congr_left fun part hpart => ?_)
    cases part with
    | none => exact absurd (h ▸ List.mem_map.2 ⟨none, hpart, rfl⟩) hcs
    | some c => rfl
  exact (hparts ▸ (divided_decodeParts bytes).1).eq_utf8

theorem decodeLossy_eq_nil_iff : decodeLossy bytes = [] ↔ bytes = [] := by
  constructor
  · exact fun h => eq_utf8_of_decodeLossy_eq h List.not_mem_nil
  · rintro rfl
    rfl

variable {a : UInt8}

theorem asciiChar_ne_replacement (ha : a < 0x80) : asciiChar a ≠ '\ufffd' := by
  have hsmall : ∀ n < 128, Char.ofNat n ≠ '\ufffd' := by decide
  exact hsmall a.toNat (UInt8.lt_iff_toNat_lt.1 ha)

/-- An ASCII character is shown for its own byte only. -/
theorem mem_of_asciiChar_mem_decodeLossy (ha : a < 0x80)
    (h : asciiChar a ∈ decodeLossy bytes) : a ∈ bytes := by
  obtain ⟨part, hpart, hshown⟩ := List.mem_map.1 h
  cases part with
  | none => exact absurd hshown.symm (asciiChar_ne_replacement ha)
  | some c =>
    obtain rfl : c = asciiChar a := hshown
    refine (divided_decodeParts bytes).1.subset_of_mem hpart ?_
    rw [asciiChar, utf8EncodeChar_one (UInt8.lt_iff_toNat_lt.1 ha)]
    exact List.mem_singleton_self a

theorem low_ge_of_startSequence {q : Pending} (h : (startSequence b).2 = some q) :
    0x80 ≤ q.low := by
  unfold startSequence at h
  split at h
  · cases h
  · split at h
    · cases h
    · rename_i hlead
      obtain rfl := Option.some.inj h
      exact (Lead.after_ofByte? hlead).low_ge

theorem low_ge_of_feed {p q : Pending} (h : (p.feed b).2 = some q) : 0x80 ≤ q.low := by
  unfold Pending.feed at h
  split at h
  · dsimp only at h
    split at h
    · cases h
    · obtain rfl := Option.some.inj h
      exact Nat.le_refl _
  · exact low_ge_of_startSequence h

theorem decodeParts_append_ascii (ha : a < 0x80) (before after : List UInt8)
    {pending : Option Pending} (hlow : ∀ p ∈ pending, 0x80 ≤ p.low) :
    decodeParts pending (before ++ a :: after) =
      decodeParts pending before ++ some (asciiChar a) :: decodeParts none after := by
  have hsmall : a.toNat < 0x80 := UInt8.lt_iff_toNat_lt.1 ha
  induction before generalizing pending with
  | nil =>
    -- it continues no sequence
    cases pending with
    | none => exact decodeParts_start after hsmall
    | some p =>
      have hp : 0x80 ≤ p.low := hlow p rfl
      rw [List.nil_append, decodeParts_break (by omega), decodeParts_start after hsmall]
      rfl
  | cons b before ih =>
    cases pending with
    | none =>
      rw [List.cons_append, decodeParts_none_cons, decodeParts_none_cons,
        ih fun _ => low_ge_of_startSequence, List.append_assoc]
    | some p =>
      rw [List.cons_append, decodeParts_some_cons, decodeParts_some_cons,
        ih fun _ => low_ge_of_feed, List.append_assoc]

/-- **An ASCII byte is shown as its character**, and what stands before and after it is shown as if
it were alone. -/
theorem decodeLossy_append_ascii (ha : a < 0x80) (before after : List UInt8) :
    decodeLossy (before ++ a :: after) =
      decodeLossy before ++ asciiChar a :: decodeLossy after := by
  rw [decodeLossy, decodeParts_append_ascii ha before after (by simp), List.map_append]
  rfl

theorem asciiChar_mem_decodeLossy_iff (ha : a < 0x80) :
    asciiChar a ∈ decodeLossy bytes ↔ a ∈ bytes := by
  refine ⟨mem_of_asciiChar_mem_decodeLossy ha, fun h => ?_⟩
  obtain ⟨before, after, rfl⟩ := List.append_of_mem h
  rw [decodeLossy_append_ascii ha]
  exact List.mem_append_right _ List.mem_cons_self

theorem mem_utf8_iff (ha : a < 0x80) {cs : List Char} : a ∈ utf8 cs ↔ asciiChar a ∈ cs := by
  rw [← asciiChar_mem_decodeLossy_iff ha, decodeLossy_utf8]

/-- A mark divides bytes where it divides the text that is shown for them. -/
theorem splitLast_decodeLossy (ha : a < 0x80) (bytes : List UInt8) :
    splitLast (asciiChar a) (decodeLossy bytes) =
      (splitLast a bytes).map fun (before, after) => (decodeLossy before, decodeLossy after) := by
  cases hsplit : splitLast a bytes with
  | none =>
    rw [Option.map_none, splitLast_eq_none_iff, asciiChar_mem_decodeLossy_iff ha]
    exact splitLast_eq_none_iff.1 hsplit
  | some parts =>
    obtain ⟨before, after⟩ := parts
    obtain ⟨rfl, hafter⟩ := splitLast_eq_some_iff.1 hsplit
    rw [decodeLossy_append_ascii ha,
      splitLast_append_cons (mt (asciiChar_mem_decodeLossy_iff ha).1 hafter)]
    rfl

end AsmExplorer.Text
