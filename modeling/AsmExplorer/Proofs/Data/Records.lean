import AsmExplorer.Listing.Data
import AsmExplorer.Proofs.Data.Json
import Mathlib.Data.List.Forall2

/-!
# Records are read as they are written

* `Data.fields?_present` : a record that is written with its fields in order gives every field that
  was there, and no other.
* `Data.Complete` : what is written holds nothing absent, so absent fields are left out instead
  of being written as `null`.
* `Data.FillsIn` : the same record with one missing field given its default.  It reads the same
  (`Data.FillsIn.bind_fields?`) if the reader takes that default for the field; how a record is
  given, by names or as a list, makes no difference.
-/

namespace AsmExplorer

namespace Data

/-! ### Nothing absent -/

/-- Data in which nothing is absent, and that has no fractions and dates. -/
inductive Complete : Data → Prop
  /-- A truth value. -/
  | bool (b : Bool) : Complete (.bool b)
  /-- An integer. -/
  | integer (n : Int) : Complete (.integer n)
  /-- A text. -/
  | text (s : String) : Complete (.text s)
  /-- A list of such data. -/
  | list {items : List Data} (h : ∀ d ∈ items, Complete d) : Complete (.list items)
  /-- A record of such data. -/
  | record {fields : List (String × Data)} (h : ∀ f ∈ fields, Complete f.2) :
      Complete (.record fields)

attribute [simp] Complete.bool Complete.integer Complete.text

theorem Complete.plain {d : Data} (h : d.Complete) : d.Plain := by
  induction h with
  | bool b => exact .bool b
  | integer n => exact .integer n
  | text s => exact .text s
  | list _ ih => exact .list ih
  | record _ ih => exact .record ih

/-- What is complete is not `null`, which stands for an absent value. -/
theorem Complete.toOption? {α : Type} {d : Data} (h : d.Complete) (read : Data → Option α) :
    d.toOption? read = (read d).map some := by
  cases h <;> rfl

@[simp] theorem complete_ofNat (n : Nat) : (ofNat n).Complete :=
  .integer n

theorem complete_ofList {α : Type} {write : α → Data} {items : List α}
    (h : ∀ a ∈ items, (write a).Complete) : (ofList write items).Complete :=
  .list (List.forall_mem_map.2 h)

@[simp] theorem complete_texts (items : List String) : (texts items).Complete :=
  complete_ofList fun s _ => .text s

theorem complete_present {fields : List (String × Option Data)}
    (h : ∀ f ∈ fields, ∀ d ∈ f.2, d.Complete) : (present fields).Complete := by
  refine .record fun field hfield => ?_
  obtain ⟨⟨name, value⟩, hmem, heq⟩ := List.mem_filterMap.1 hfield
  obtain ⟨d, rfl, rfl⟩ := Option.map_eq_some_iff.1 heq
  exact h _ hmem d rfl

theorem complete_of_mapM {α : Type} {write? : α → Option Data} {o : Option α}
    {written : Option Data} (h : o.mapM write? = some written)
    (hwrite : ∀ {a d}, write? a = some d → d.Complete) : ∀ d ∈ written, d.Complete := by
  cases o with
  | none =>
    obtain rfl : none = written := by simpa using h
    simp
  | some a =>
    obtain ⟨d, hd, rfl⟩ : ∃ d, write? a = some d ∧ some d = written := by simpa using h
    rintro _ ⟨⟩
    exact hwrite hd

/-! ### Parts -/

theorem toList?_ofList {α : Type} {read : Data → Option α} {write : α → Data}
    (h : ∀ a, read (write a) = some a) (items : List α) :
    toList? read (ofList write items) = some items := by
  show (items.map write).mapM read = some items
  induction items with
  | nil => rfl
  | cons a items ih => simp [h, ih]

theorem forall₂_of_mapM {α : Type} {write? : α → Option Data} {items : List α}
    {written : List Data} (h : items.mapM write? = some written) :
    List.Forall₂ (fun a d => write? a = some d) items written := by
  induction items generalizing written with
  | nil =>
    obtain rfl : [] = written := by simpa using h
    exact .nil
  | cons a items ih =>
    obtain ⟨d, hd, rest, hrest, rfl⟩ :
        ∃ d, write? a = some d ∧ ∃ rest, items.mapM write? = some rest ∧ d :: rest = written := by
      simpa [Option.bind_eq_some_iff] using h
    exact .cons hd (ih hrest)

theorem complete_of_forall₂ {α : Type} {items : List α} {written : List Data}
    (h : List.Forall₂ (fun _ d => d.Complete) items written) : (list written).Complete := by
  refine .list ?_
  induction h with
  | nil => simp
  | cons hd _ ih => exact List.forall_mem_cons.2 ⟨hd, ih⟩

theorem toList?_of_forall₂ {α : Type} {read : Data → Option α} {items : List α}
    {written : List Data} (h : List.Forall₂ (fun a d => read d = some a) items written) :
    toList? read (.list written) = some items := by
  show written.mapM read = some items
  induction h with
  | nil => rfl
  | cons hread _ ih => simp [hread, ih]

theorem toNatBelow?_ofNat {n bound : Nat} (h : n < bound) :
    (ofNat n).toNatBelow? bound = some n := by
  simp [ofNat, toNatBelow?, h]

@[simp] theorem toUInt32?_ofNat (n : UInt32) : (ofNat n.toNat).toUInt32? = some n := by
  have hbound : n.toNat < Text.bound32 := n.toNat_lt
  rw [toUInt32?, toNatBelow?_ofNat hbound, Option.map_some, UInt32.ofNat_toNat]

@[simp] theorem toUInt64?_ofNat (n : UInt64) : (ofNat n.toNat).toUInt64? = some n := by
  have hbound : n.toNat < Text.bound64 := n.toNat_lt
  rw [toUInt64?, toNatBelow?_ofNat hbound, Option.map_some, UInt64.ofNat_toNat]

/-! ### Fields -/

variable {names : List String} {fields : List (String × Data)}

theorem fields?_of_known (hknown : ∀ name ∈ fields.map (·.1), name ∈ names)
    (hnodup : (fields.map (·.1)).Nodup) (unknown : Unknown) :
    (record fields).fields? names unknown = some ⟨fun name => fields.lookup name⟩ := by
  have hfilter : (fields.map (·.1)).filter names.contains = fields.map (·.1) :=
    List.filter_eq_self.2 fun name hname => List.contains_iff_mem.2 (hknown name hname)
  simp only [fields?]
  rw [hfilter, if_neg]
  simp [hnodup]

theorem lookup_cons {α : Type} (name other : String) (a : α) (fields : List (String × α)) :
    ((other, a) :: fields).lookup name = if name = other then some a else fields.lookup name := by
  by_cases hname : name = other
  · rw [hname, List.lookup_cons_self, if_pos rfl]
  · rw [List.lookup_cons, beq_false_of_ne hname, if_neg hname]

theorem lookup_eq_none {name : String} (h : name ∉ fields.map (·.1)) :
    fields.lookup name = none :=
  List.lookup_eq_none_iff.2 fun f hf =>
    bne_iff_ne.2 fun heq => h (List.mem_map.2 ⟨f, hf, heq.symm⟩)

theorem fields?_record {d : Data} (names : List String) (hd : d = record fields)
    (hnames : fields.map (·.1) = names) (hnodup : names.Nodup) (unknown : Unknown) :
    ∃ f, d.fields? names unknown = some f ∧ ∀ name, f.get? name = fields.lookup name := by
  subst hd hnames
  exact ⟨_, fields?_of_known (fun _ hname => hname) hnodup _, fun _ => rfl⟩

theorem sublist_present (fields : List (String × Option Data)) :
    ((fields.filterMap fun f => f.2.map (f.1, ·)).map (·.1)).Sublist (fields.map (·.1)) := by
  induction fields with
  | nil => exact .slnil
  | cons f fields ih =>
    obtain ⟨name, _ | d⟩ := f
    · exact ih.cons name
    · exact ih.cons_cons name

theorem lookup_present {fields : List (String × Option Data)} (h : (fields.map (·.1)).Nodup)
    (name : String) :
    (fields.filterMap fun f => f.2.map (f.1, ·)).lookup name = (fields.lookup name).join := by
  induction fields with
  | nil => rfl
  | cons f fields ih =>
    obtain ⟨hnew, hrest⟩ := List.nodup_cons.1 h
    obtain ⟨other, value⟩ := f
    by_cases hname : name = other
    · subst hname
      -- an absent field is not found further on either, because its name does not occur again
      have hnone : (fields.filterMap fun f => f.2.map (f.1, ·)).lookup name = none :=
        lookup_eq_none fun hmem => hnew ((sublist_present fields).subset hmem)
      cases value with
      | none => simpa [lookup_cons] using hnone
      | some d => simp
    · cases value with
      | none => simpa [lookup_cons, hname] using ih hrest
      | some d => simpa [lookup_cons, hname] using ih hrest

/-- **The fields that are written are those that are read.** -/
theorem fields?_present {d : Data} {fields : List (String × Option Data)} (names : List String)
    (hd : d = present fields) (hnames : fields.map (·.1) = names) (hnodup : names.Nodup)
    (unknown : Unknown) :
    ∃ f, d.fields? names unknown = some f ∧ ∀ name, f.get? name = (fields.lookup name).join := by
  subst hd hnames
  have hsublist := sublist_present fields
  exact ⟨_, fields?_of_known (fun name hname => hsublist.subset hname) (hsublist.nodup hnodup) _,
    lookup_present hnodup⟩

end Data

namespace Fields

variable {α : Type} {f : Fields} {name : String} {d : Data} {read : Data → Option α} {a : α}

theorem required?_of_get? (hget : f.get? name = some d) (hread : read d = some a) :
    f.required? name read = some a := by
  rw [required?, hget, Option.bind_eq_bind, Option.bind_some, hread]

/-- A field that is there is read, whatever its default. -/
theorem withDefault?_of_get? {default_ : α} (hget : f.get? name = some d)
    (hread : read d = some a) : f.withDefault? name read default_ = some a := by
  rw [withDefault?, hget]
  exact hread

/-- A value that is left out when it is absent is read back. -/
theorem optional?_of_get? {value : Option α} {write : α → Data}
    (hget : f.get? name = value.map write)
    (hwrite : ∀ a, (write a).Complete) (hread : ∀ a, read (write a) = some a) :
    f.optional? name read = some value := by
  rw [optional?, withDefault?, hget]
  cases value with
  | none => rfl
  | some a =>
    show (write a).toOption? read = some (some a)
    rw [(hwrite a).toOption?, hread, Option.map_some]

/-- So is one that can be left out, but not always written. -/
theorem optional?_of_mapM {value : Option α} {written : Option Data} {write? : α → Option Data}
    (hget : f.get? name = written) (hwritten : value.mapM write? = some written)
    (hwrite : ∀ {a d}, write? a = some d → d.Complete)
    (hread : ∀ {a d}, write? a = some d → read d = some a) :
    f.optional? name read = some value := by
  rw [optional?, withDefault?, hget]
  cases value with
  | none =>
    obtain rfl : none = written := by simpa using hwritten
    rfl
  | some a =>
    obtain ⟨d, hd, rfl⟩ : ∃ d, write? a = some d ∧ some d = written := by simpa using hwritten
    show d.toOption? read = some (some a)
    rw [(hwrite hd).toOption?, hread hd, Option.map_some]

/-! What holds of all that a reader gives holds of a field. -/

section Read

variable {P : α → Prop} (hread : ∀ {d a}, read d = some a → P a)
include hread

theorem of_required? (h : f.required? name read = some a) : P a := by
  obtain ⟨d, -, hd⟩ := Option.bind_eq_some_iff.1 h
  exact hread hd

theorem of_withDefault? {default_ : α} (hdefault : P default_)
    (h : f.withDefault? name read default_ = some a) : P a := by
  rw [withDefault?] at h
  split at h
  · rwa [← Option.some.inj h]
  · exact hread h

theorem of_optional? {value : Option α} (h : f.optional? name read = some value) :
    ∀ a ∈ value, P a := by
  rintro a rfl
  rw [optional?, withDefault?] at h
  split at h
  · cases h
  · unfold Data.toOption? at h
    split at h
    · cases h
    · obtain ⟨b, hb, heq⟩ := Option.map_eq_some_iff.1 h
      exact Option.some.inj heq ▸ hread hb

end Read

end Fields

/-! ### Missing fields -/

namespace Fields

/-- The fields with one more. -/
def set (f : Fields) (name : String) (d : Data) : Fields :=
  ⟨fun other => if other = name then some d else f.get? other⟩

variable {α : Type} {f : Fields} {defaults : List (String × Data)} {e : String × Data}
  {name : String} {read : Data → Option α}

theorem required?_set (he : e ∈ defaults) (h : ∀ e ∈ defaults, name ≠ e.1) :
    (f.set e.1 e.2).required? name read = f.required? name read := by
  simp only [required?, set, if_neg (h e he)]

theorem withDefault?_set {default_ : α} (he : e ∈ defaults) (hnew : f.get? e.1 = none)
    (h : ∀ e ∈ defaults, name = e.1 → read e.2 = some default_) :
    (f.set e.1 e.2).withDefault? name read default_ = f.withDefault? name read default_ := by
  by_cases hname : name = e.1
  · rw [withDefault?, withDefault?, hname, hnew]
    simpa only [set, if_true] using h e he hname
  · simp only [withDefault?, set, if_neg hname]

theorem optional?_set (he : e ∈ defaults) (hnew : f.get? e.1 = none)
    (h : ∀ e ∈ defaults, name = e.1 → e.2 = .null) :
    (f.set e.1 e.2).optional? name read = f.optional? name read := by
  refine withDefault?_set he hnew fun e he hname => ?_
  rw [h e he hname, Data.toOption?]

end Fields

namespace Data

/-- The second record is the first with a field that was missing, and that has its default. -/
inductive FillsIn (names : List String) (defaults : List (String × Data)) : Data → Data → Prop
  /-- A field of any name that was not given. -/
  | field {fields : List (String × Data)} {f : String × Data} (h : f ∈ defaults)
      (hnew : f.1 ∉ fields.map (·.1)) :
      FillsIn names defaults (.record fields) (.record (f :: fields))
  /-- The next item of a list of fields. -/
  | item {items : List Data} {f : String × Data} (h : f ∈ defaults)
      (hnext : names[items.length]? = some f.1) :
      FillsIn names defaults (.list items) (.list (items ++ [f.2]))

variable {names : List String} {fields : List (String × Data)}

/-- The item at the end of a list is the field whose turn it is. -/
theorem positional_append (hnames : names.Nodup) {items : List Data} {name : String}
    (hnext : names[items.length]? = some name) (d : Data) :
    positional names items name = none ∧
      ∀ other, positional names (items ++ [d]) other =
        if other = name then some d else positional names items other := by
  -- the names of the items that are there, and the name whose turn it is
  obtain ⟨before, after, rfl, hlen⟩ :
      ∃ before after, names = before ++ name :: after ∧ before.length = items.length := by
    obtain ⟨hlt, hget⟩ := List.getElem?_eq_some_iff.1 hnext
    refine ⟨names.take items.length, names.drop (items.length + 1), ?_, ?_⟩
    · rw [← hget, List.getElem_cons_drop, List.take_append_drop]
    · rw [List.length_take]
      omega
  have hshort : (before ++ name :: after).zip items = before.zip items := by
    rw [← List.append_nil items, List.zip_append hlen, List.zip_nil_right, List.append_nil,
      List.append_nil]
  have hnone : (before.zip items).lookup name = none := by
    refine lookup_eq_none fun hmem => ?_
    obtain ⟨⟨other, _⟩, hzip, rfl⟩ := List.mem_map.1 hmem
    exact (List.nodup_append.1 hnames).2.2 _ (List.of_mem_zip hzip).1 _ List.mem_cons_self rfl
  simp only [positional, hshort]
  refine ⟨hnone, fun other => ?_⟩
  rw [List.zip_append hlen, List.lookup_append, List.zip_cons_cons, List.zip_nil_right, lookup_cons]
  by_cases hother : other = name
  · rw [if_pos hother, if_pos hother, hother, hnone, Option.none_or]
  · rw [if_neg hother, if_neg hother, List.lookup_nil, Option.or_none]

variable {defaults : List (String × Data)} {d d' : Data}

/-- The fields are those of the first record and the missing one. -/
theorem FillsIn.exists_set (h : FillsIn names defaults d d') (hnames : names.Nodup)
    (hdefaults : ∀ e ∈ defaults, e.1 ∈ names) (unknown : Unknown) :
    ∃ e ∈ defaults, d'.fields? names unknown = (d.fields? names unknown).map (·.set e.1 e.2) ∧
      ∀ f, d.fields? names unknown = some f → f.get? e.1 = none := by
  cases h with
  | @field fields e he hnew =>
    refine ⟨e, he, ?_, fun f hf => ?_⟩
    · have hname : names.contains e.1 = true := List.contains_iff_mem.2 (hdefaults e he)
      -- a known and new name makes no record acceptable, and none unacceptable
      have hfirst : e.1 ∉ (fields.map (·.1)).filter names.contains :=
        fun hmem => hnew (List.mem_of_mem_filter hmem)
      simp only [fields?, List.map_cons, List.filter_cons, hname, if_true, List.length_cons,
        List.nodup_cons, hfirst, not_false_eq_true, true_and, ne_eq, Nat.add_right_cancel_iff]
      split
      · rfl
      · exact congrArg (fun get? => some (Fields.mk get?))
          (funext fun name => lookup_cons name e.1 e.2 fields)
    · simp only [fields?] at hf
      split at hf
      · cases hf
      · obtain rfl := Option.some.inj hf
        exact lookup_eq_none hnew
  | @item items e he hnext =>
    obtain ⟨hnone, hset⟩ := positional_append hnames hnext e.2
    refine ⟨e, he, ?_, fun f hf => ?_⟩
    · obtain ⟨hlt, -⟩ := List.getElem?_eq_some_iff.1 hnext
      simp only [fields?, List.length_append, List.length_singleton]
      rw [if_neg (by omega), if_neg (by omega), Option.map_some]
      exact congrArg (fun get? => some (Fields.mk get?)) (funext hset)
    · simp only [fields?] at hf
      split at hf
      · cases hf
      · obtain rfl := Option.some.inj hf
        exact hnone

/-- **A missing field reads as its default** if that is how the reader takes it. -/
theorem FillsIn.bind_fields? {α : Type} (h : FillsIn names defaults d d') (hnames : names.Nodup)
    (hdefaults : ∀ e ∈ defaults, e.1 ∈ names) (unknown : Unknown) {ofFields? : Fields → Option α}
    (hset : ∀ f : Fields, ∀ e ∈ defaults, f.get? e.1 = none →
      ofFields? (f.set e.1 e.2) = ofFields? f) :
    d'.fields? names unknown >>= ofFields? = d.fields? names unknown >>= ofFields? := by
  obtain ⟨e, he, heq, hnew⟩ := h.exists_set hnames hdefaults unknown
  rw [heq]
  cases hfields : d.fields? names unknown with
  | none => rfl
  | some f => exact hset f e he (hnew f hfields)

end Data

end AsmExplorer
