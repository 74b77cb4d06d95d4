import AsmExplorer.Proofs.Data.Spelling

/-!
# JSON text is read back

Both ways of writing data as JSON, on one line and over several, spell it, so the reader gives the
same data again (`Json.parse?_compact` and `Json.parse?_pretty`).  This goes for all data without
fractions and dates, which are kept as they were written and may not be JSON at all.
-/

namespace AsmExplorer

/-- Data without fractions and dates. -/
inductive Data.Plain : Data → Prop
  /-- No value. -/
  | null : Plain .null
  /-- A truth value. -/
  | bool (b : Bool) : Plain (.bool b)
  /-- An integer. -/
  | integer (n : Int) : Plain (.integer n)
  /-- A text. -/
  | text (s : String) : Plain (.text s)
  /-- A list of such data. -/
  | list {items : List Data} (h : ∀ d ∈ items, Plain d) : Plain (.list items)
  /-- A record of such data. -/
  | record {fields : List (String × Data)} (h : ∀ f ∈ fields, Plain f.2) : Plain (.record fields)

namespace Json

theorem toList_quote (s : String) : (quote s).toList = quoted s := by
  simp [quote, quoted]

/-! ### Parts between brackets -/

theorem blank_nil : Blank [] := by
  simp [Blank]

/-- A line break and an indentation. -/
def lineStart (depth : Nat) : List Char :=
  '\n' :: (indentation depth).toList

theorem blank_lineStart (depth : Nat) : Blank (lineStart depth) := by
  intro c hc
  obtain rfl | hc := List.mem_cons.1 hc
  · exact .inr (.inl rfl)
  · rw [indentation, String.toList_ofList] at hc
    exact .inl (List.eq_of_mem_replicate hc)

/-- Items with a comma and blanks between them. -/
theorem spellsItems_intercalate (write : Data → String) {before after : List Char}
    (hbefore : Blank before) (hafter : Blank after) {items : List Data} (hne : items ≠ [])
    (h : ∀ d ∈ items, Spells d (write d).toList) :
    SpellsItems items
      (before ++ (List.intercalate (',' :: before) (items.map fun d => (write d).toList) ++
        (after ++ [']']))) := by
  induction items with
  | nil => exact absurd rfl hne
  | cons d items ih =>
    have hd := h d List.mem_cons_self
    cases items with
    | nil => simpa using SpellsItems.last hbefore hd hafter
    | cons next items =>
      have hmore := ih (List.cons_ne_nil _ _) fun d hd => h d (List.mem_cons_of_mem _ hd)
      simpa [List.intercalate_cons_cons] using SpellsItems.more hbefore hd blank_nil hmore

/-- Fields with a comma and blanks between them. -/
theorem spellsFields_intercalate (write : String × Data → String) {before after : List Char}
    (hbefore : Blank before) (hafter : Blank after) {fields : List (String × Data)}
    (hne : fields ≠ []) (h : ∀ f ∈ fields, SpellsField f (write f).toList) :
    SpellsFields fields
      (before ++ (List.intercalate (',' :: before) (fields.map fun f => (write f).toList) ++
        (after ++ ['\x7d']))) := by
  induction fields with
  | nil => exact absurd rfl hne
  | cons f fields ih =>
    have hf := h f List.mem_cons_self
    cases fields with
    | nil => simpa using SpellsFields.last hbefore hf hafter
    | cons next fields =>
      have hmore := ih (List.cons_ne_nil _ _) fun f hf => h f (List.mem_cons_of_mem _ hf)
      simpa [List.intercalate_cons_cons] using SpellsFields.more hbefore hf blank_nil hmore

theorem toList_intercalate_map {α : Type} (separator : String) (write : α → String) (l : List α) :
    (separator.intercalate (l.map write)).toList =
      separator.toList.intercalate (l.map fun a => (write a).toList) := by
  rw [String.toList_intercalate, List.map_map]
  rfl

theorem spellsField_quote {f : String × Data} {s blank : String} (hblank : Blank blank.toList)
    (h : Spells f.2 s.toList) : SpellsField f (quote f.1 ++ ":" ++ blank ++ s).toList := by
  simpa [toList_quote] using SpellsField.mk hblank h

/-! ### On one line -/

theorem compactItems_eq (items : List Data) : compactItems items = items.map compact := by
  induction items with
  | nil => rfl
  | cons d items ih => rw [compactItems, ih, List.map_cons]

/-- The text of a field on one line. -/
def compactField (f : String × Data) : String :=
  quote f.1 ++ ":" ++ "" ++ compact f.2

theorem compactFields_eq (fields : List (String × Data)) :
    compactFields fields = fields.map compactField := by
  induction fields with
  | nil => rfl
  | cons f fields ih => rw [compactFields, ih, List.map_cons, compactField, String.append_empty]

theorem spells_compact {d : Data} (h : d.Plain) : Spells d (compact d).toList := by
  induction h with
  | null => exact .null
  | bool b => cases b <;> exact .bool _
  | integer n => exact .integer n
  | text s =>
    rw [compact, toList_quote]
    exact .text s
  | @list items _ ih =>
    rw [compact, compactItems_eq]
    cases items with
    | nil => exact .emptyList
    | cons d items =>
      have hitems := spellsItems_intercalate compact blank_nil blank_nil
        (List.cons_ne_nil d items) ih
      rw [String.toList_append, String.toList_append, toList_intercalate_map]
      exact .list hitems
  | @record fields _ ih =>
    rw [compact, compactFields_eq]
    cases fields with
    | nil => exact .emptyRecord
    | cons f fields =>
      have hfields := spellsFields_intercalate compactField blank_nil blank_nil
        (List.cons_ne_nil f fields) fun f hf => spellsField_quote blank_nil (ih f hf)
      rw [String.toList_append, String.toList_append, toList_intercalate_map]
      exact .record hfields

/-- **Data on one line is read back.** -/
theorem parse?_compact {d : Data} (h : d.Plain) : parse? (compact d) = some d :=
  parse?_of_spells (spells_compact h)

/-! ### Over several lines -/

theorem prettyItems_eq (depth : Nat) (items : List Data) :
    prettyItems depth items = items.map (prettyAt depth) := by
  induction items with
  | nil => rfl
  | cons d items ih => rw [prettyItems, ih, List.map_cons]

/-- The text of a field over several lines. -/
def prettyField (depth : Nat) (f : String × Data) : String :=
  quote f.1 ++ ":" ++ " " ++ prettyAt depth f.2

theorem prettyFields_eq (depth : Nat) (fields : List (String × Data)) :
    prettyFields depth fields = fields.map (prettyField depth) := by
  induction fields with
  | nil => rfl
  | cons f fields ih =>
    have hcolon : quote f.1 ++ ": " = quote f.1 ++ ":" ++ " " := by
      rw [String.append_assoc]
      rfl
    rw [prettyFields, ih, List.map_cons, prettyField, hcolon]

theorem intercalate_indented (indent : List Char) (parts : List (List Char)) (hne : parts ≠ []) :
    '\n' :: List.intercalate [',', '\n'] (parts.map (indent ++ ·)) =
      '\n' :: indent ++ List.intercalate (',' :: '\n' :: indent) parts := by
  induction parts with
  | nil => exact absurd rfl hne
  | cons part parts ih =>
    cases parts with
    | nil => simp
    | cons next parts =>
      have hmore := ih (List.cons_ne_nil _ _)
      rw [List.map_cons] at hmore
      simp [List.intercalate_cons_cons, hmore]

theorem toList_enclose {α : Type} (open_ close : String) (depth : Nat) (write : α → String)
    {l : List α} (hne : l ≠ []) : (enclose open_ close depth (l.map write)).toList =
      open_.toList ++ (lineStart (depth + 1) ++
        (List.intercalate (',' :: lineStart (depth + 1)) (l.map fun a => (write a).toList) ++
          (lineStart depth ++ close.toList))) := by
  have hlines := intercalate_indented (indentation (depth + 1)).toList
    (l.map fun a => (write a).toList) (by simpa using hne)
  have hparts : (l.map fun a => (write a).toList).map ((indentation (depth + 1)).toList ++ ·) =
      l.map fun a => (indentation (depth + 1) ++ write a).toList := by
    simp [Function.comp_def]
  have hbreak : "\n".toList = ['\n'] := rfl
  have hcomma : ",\n".toList = [',', '\n'] := rfl
  rw [enclose, if_neg (by simpa using hne), List.map_map]
  simp only [String.toList_append, Function.comp_def]
  rw [toList_intercalate_map, hbreak, hcomma, ← hparts, List.append_assoc open_.toList,
    List.singleton_append, hlines]
  simp [lineStart]

theorem toList_enclose_nil (open_ close : String) (depth : Nat) :
    (enclose open_ close depth []).toList = open_.toList ++ close.toList :=
  String.toList_append

theorem spells_prettyAt {d : Data} (h : d.Plain) (depth : Nat) :
    Spells d (prettyAt depth d).toList := by
  induction h generalizing depth with
  | null => exact spells_compact .null
  | bool b => exact spells_compact (.bool b)
  | integer n => exact spells_compact (.integer n)
  | text s => exact spells_compact (.text s)
  | @list items _ ih =>
    rw [prettyAt, prettyItems_eq]
    cases items with
    | nil =>
      rw [List.map_nil, toList_enclose_nil]
      exact .emptyList
    | cons d items =>
      have hitems := spellsItems_intercalate (prettyAt (depth + 1)) (blank_lineStart (depth + 1))
        (blank_lineStart depth) (List.cons_ne_nil d items) fun d hd => ih d hd (depth + 1)
      rw [toList_enclose _ _ _ _ (List.cons_ne_nil d items)]
      exact .list hitems
  | @record fields _ ih =>
    rw [prettyAt, prettyFields_eq]
    cases fields with
    | nil =>
      rw [List.map_nil, toList_enclose_nil]
      exact .emptyRecord
    | cons f fields =>
      have hblank : Blank " ".toList := by simp [Blank]
      have hfields := spellsFields_intercalate (prettyField (depth + 1))
        (blank_lineStart (depth + 1)) (blank_lineStart depth) (List.cons_ne_nil f fields)
        fun f hf => spellsField_quote hblank (ih f hf (depth + 1))
      rw [toList_enclose _ _ _ _ (List.cons_ne_nil f fields)]
      exact .record hfields

/-- **Data over several lines is read back.** -/
theorem parse?_pretty {d : Data} (h : d.Plain) : parse? (pretty d) = some d :=
  parse?_of_spells (spells_prettyAt h 0)

end Json

end AsmExplorer
