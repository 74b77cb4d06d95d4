import AsmExplorer.Proofs.Listing.RenamedLines

/-!
# Names that stay names

Where every new name is a word again, such as `square` for `_Z6squarei`, all that is read of a line
is found again under the new names: labels, declarations, and the symbols that an instruction refers
to.

* `Gas.Renaming.Plain` : the new names are words.
* `Gas.Renaming.Plain.label?_text`, `Gas.Renaming.Plain.declared?_text`,
  `Gas.Renaming.Plain.functionType?_text`, `Gas.Renaming.Plain.names_text` : the names of a renamed
  line are the names of the line, renamed.
* `Gas.Renaming.Plain.classify_text` : **a line stays what it is.**
-/

namespace AsmExplorer

namespace Gas

open Text

variable {ρ : Renaming} {s t w line name : List Char} {c : Char} {q : Char → Bool}

namespace Renaming

/-- A renaming to names that are words.  No name becomes or ceases to be a label of the compiler's
own, nor the word `function` of a declaration. -/
structure Plain (ρ : Renaming) : Prop where
  isWordChar : ∀ w, IsWord w → ∀ c ∈ ρ.rename w, Gas.isWordChar c = true
  isLocal : ∀ w, IsWord w → ("L.".toList <+: ρ.rename w ↔ "L.".toList <+: w)
  function : ∀ w, IsWord w → ("function".toList <+: ρ.rename w ↔ "function".toList <+: w)

theorem plain_single {old new : List Char} {hold : old.head?.any beginsOwn = false}
    {hnew : new.head?.any (fun c => Gas.isWordChar c && !beginsOwn c) = true}
    {hsuffix : '@' ∉ new} {hdebug : "llvm.dbg.".toList <+: new ↔ "llvm.dbg.".toList <+: old}
    (hword : new.all Gas.isWordChar = true)
    (hlocal : "L.".toList <+: new ↔ "L.".toList <+: old)
    (hfunction : "function".toList <+: new ↔ "function".toList <+: old) :
    (single old new hold hnew hsuffix hdebug).Plain := by
  refine ⟨fun w hw => ?_, fun w _ => ?_, fun w _ => ?_⟩
  · dsimp only [single]
    split
    · exact List.all_eq_true.1 hword
    · exact hw.isWordChar
  · dsimp only [single]
    split
    · rename_i heq
      rw [heq, hlocal]
    · rfl
  · dsimp only [single]
    split
    · rename_i heq
      rw [heq, hfunction]
    · rfl

/-- A kind of line under new names. -/
def kind (ρ : Renaming) : LineKind → LineKind
  | .label name => .label (ρ.text name)
  | other => other

/-! ### Separators -/

theorem dropLead?_text {lead : List Char} (hlead : ∀ c ∈ lead, Gas.isWordChar c = false)
    (s : List Char) : dropLead? lead (ρ.text s) = (dropLead? lead s).map ρ.text := by
  induction lead generalizing s with
  | nil => rw [dropLead?_nil, dropLead?_nil, Option.map_some]
  | cons c lead ih =>
    have hc : Gas.isWordChar c = false := hlead c List.mem_cons_self
    have hhead := ρ.any_head?_text_of_not_mem hc s
    have hnone {u : List Char} (hu : u.head?.any (· == c) = false) :
        dropLead? (c :: lead) u = none := by
      cases u with
      | nil => rfl
      | cons d u =>
        have hne : c ≠ d := fun h => by simp [h] at hu
        rw [dropLead?_cons, if_neg hne]
    cases hs : s.head?.any (· == c) with
    | false => rw [hnone hs, hnone (hhead.trans hs), Option.map_none]
    | true =>
      obtain ⟨d, hd, heq⟩ := (Option.any_eq_true _ _).1 hs
      obtain ⟨rest, rfl⟩ := List.head?_eq_some_iff.1 hd
      obtain rfl := beq_iff_eq.1 heq
      rw [ρ.text_cons hc, dropLead?_cons, dropLead?_cons, if_pos rfl, if_pos rfl,
        ih fun e he => hlead e (List.mem_cons_of_mem d he)]

theorem head?_eq_some_iff_text (hc : Gas.isWordChar c = false) (s : List Char) :
    (ρ.text s).head? = some c ↔ s.head? = some c := by
  have hany (u : List Char) : u.head? = some c ↔ u.head?.any (· == c) = true := by
    cases u <;> simp
  rw [hany, hany, ρ.any_head?_text_of_not_mem hc]

theorem at_not_mem_text (h : '@' ∉ s) : '@' ∉ ρ.text s := by
  induction s using wordInduction with
  | nil => exact h
  | other c t hc ih =>
    rw [List.mem_cons, not_or] at h
    rw [ρ.text_cons hc, List.mem_cons, not_or]
    exact ⟨h.1, ih h.2⟩
  | word w t hw ht ih =>
    rw [List.mem_append, not_or] at h
    rw [ρ.text_append hw ht, List.mem_append, not_or]
    exact ⟨ρ.no_suffix w hw, ih h.2⟩

theorem symbolNames_text (token : List Char) :
    Scan.symbolNames (ρ.text token) = (Scan.symbolNames token).map ρ.text := by
  have hat : Gas.isWordChar '@' = false := rfl
  unfold Scan.symbolNames
  cases hsplit : splitFirst '@' token with
  | none =>
    have hnone : splitFirst '@' (ρ.text token) = none :=
      splitFirst_eq_none_iff.2 (ρ.at_not_mem_text (splitFirst_eq_none_iff.1 hsplit))
    rw [hnone, List.map_singleton]
  | some parts =>
    obtain ⟨bare, suffix⟩ := parts
    obtain ⟨rfl, hbare⟩ := splitFirst_eq_some_iff.1 hsplit
    rw [ρ.text_append_cons hat, splitFirst_append_cons (ρ.at_not_mem_text hbare)]
    simp only [ρ.isEmpty_text]
    split
    · rw [List.map_singleton, ρ.text_append_cons hat]
    · rw [List.map_cons, List.map_singleton, ρ.text_append_cons hat]

namespace Plain

/-! ### Runs of characters -/

theorem forall_mem_text (hρ : ρ.Plain) (hq : ∀ c, Gas.isWordChar c = true → q c = true)
    (hs : ∀ c ∈ s, q c = true) : ∀ c ∈ ρ.text s, q c = true := by
  induction s using wordInduction with
  | nil => exact hs
  | other c t hc ih =>
    rw [ρ.text_cons hc, List.forall_mem_cons]
    exact ⟨hs c List.mem_cons_self, ih fun d hd => hs d (List.mem_cons_of_mem c hd)⟩
  | word w t hw ht ih =>
    rw [ρ.text_append hw ht, List.forall_mem_append]
    exact ⟨fun c hc => hq c (hρ.isWordChar w hw c hc),
      ih fun d hd => hs d (List.mem_append_right w hd)⟩

theorem atBoundary_takeWhile (ht : atBoundary t = true) : atBoundary (t.takeWhile q) = true := by
  cases t with
  | nil => rfl
  | cons c t =>
    rw [List.takeWhile_cons]
    split
    · exact ht
    · rfl

theorem takeWhile_text (hρ : ρ.Plain) (hq : ∀ c, Gas.isWordChar c = true → q c = true)
    (s : List Char) : (ρ.text s).takeWhile q = ρ.text (s.takeWhile q) := by
  induction s using wordInduction with
  | nil => rfl
  | other c t hc ih =>
    rw [ρ.text_cons hc, List.takeWhile_cons, List.takeWhile_cons, ih]
    split
    · rw [ρ.text_cons hc]
    · rfl
  | word w t hw ht ih =>
    rw [ρ.text_append hw ht,
      List.takeWhile_append_of_pos fun c hc => hq c (hρ.isWordChar w hw c hc),
      List.takeWhile_append_of_pos fun c hc => hq c (hw.isWordChar c hc), ih,
      ρ.text_append hw (atBoundary_takeWhile ht)]

theorem dropWhile_text (hρ : ρ.Plain) (hq : ∀ c, Gas.isWordChar c = true → q c = true)
    (s : List Char) : (ρ.text s).dropWhile q = ρ.text (s.dropWhile q) := by
  induction s using wordInduction with
  | nil => rfl
  | other c t hc ih =>
    rw [ρ.text_cons hc, List.dropWhile_cons, List.dropWhile_cons, ih]
    split
    · rfl
    · rw [ρ.text_cons hc]
  | word w t hw ht ih =>
    rw [ρ.text_append hw ht,
      List.dropWhile_append_of_pos fun c hc => hq c (hρ.isWordChar w hw c hc),
      List.dropWhile_append_of_pos fun c hc => hq c (hw.isWordChar c hc), ih]

theorem run?_text (hρ : ρ.Plain) (s : List Char) :
    Scan.run? isNameChar (ρ.text s) =
      (Scan.run? isNameChar s).map fun found => (ρ.text found.1, ρ.text found.2) := by
  have hname (c : Char) (hc : Gas.isWordChar c = true) : isNameChar c = true :=
    isNameChar_of_isWordChar hc
  rw [Scan.run?, Scan.run?, ρ.any_head?_text (fun c hc _ => hname c hc), hρ.takeWhile_text hname,
    hρ.dropWhile_text hname]
  split <;> rfl

/-! ### Labels and declarations -/

theorem map_dropLead?_eq {α : Type} (lead s : List Char) (x : α) :
    (dropLead? lead s).map (fun _ => x) = if lead <+: s then some x else none := by
  rw [dropLead?]
  simp only [List.isPrefixOf_iff_prefix]
  split <;> rfl

theorem nameBeforeColon?_eq (s : List Char) :
    nameBeforeColon? s =
      match dropLead? ['"'] s with
      | some rest => (Scan.run? isNameChar rest).bind fun found =>
          (dropLead? ['"', ':'] found.2).map fun _ => found.1
      | none => (Scan.run? isNameChar s).bind fun found =>
          (dropLead? [':'] found.2).map fun _ => found.1 := by
  unfold nameBeforeColon?
  split
  · rename_i rest
    rw [dropLead?_cons, if_pos rfl, dropLead?_nil]
    refine Option.bind_congr fun found _ => ?_
    dsimp only
    rw [map_dropLead?_eq]
    split
    · rename_i more heq
      rw [if_pos ⟨more, heq.symm⟩]
    · rename_i hmark
      rw [if_neg fun ⟨more, hmore⟩ => hmark more hmore.symm]
  · rename_i hquote
    have hnone : dropLead? ['"'] s = none := by
      cases s with
      | nil => rfl
      | cons c s =>
        have hne : '"' ≠ c := fun h => hquote s (h ▸ rfl)
        rw [dropLead?_cons, if_neg hne]
    rw [hnone]
    refine Option.bind_congr fun found _ => ?_
    rw [map_dropLead?_eq]
    refine if_congr ?_ rfl rfl
    cases found.2 <;> simp [eq_comm]

theorem nameBeforeColon?_text (hρ : ρ.Plain) (s : List Char) :
    nameBeforeColon? (ρ.text s) = (nameBeforeColon? s).map ρ.text := by
  have hquote : ∀ c ∈ ['"'], Gas.isWordChar c = false := List.forall_mem_singleton.2 rfl
  have hcolon : ∀ c ∈ [':'], Gas.isWordChar c = false := List.forall_mem_singleton.2 rfl
  have hquoteColon : ∀ c ∈ ['"', ':'], Gas.isWordChar c = false :=
    List.forall_mem_cons.2 ⟨rfl, hcolon⟩
  rw [nameBeforeColon?_eq, nameBeforeColon?_eq, ρ.dropLead?_text hquote]
  cases dropLead? ['"'] s with
  | some rest =>
    simp only [Option.map_some, hρ.run?_text]
    cases Scan.run? isNameChar rest with
    | none => rfl
    | some found =>
      simp only [Option.map_some, Option.bind_some, ρ.dropLead?_text hquoteColon, Option.map_map]
      rfl
  | none =>
    simp only [Option.map_none, hρ.run?_text]
    cases Scan.run? isNameChar s with
    | none => rfl
    | some found =>
      simp only [Option.map_some, Option.bind_some, ρ.dropLead?_text hcolon, Option.map_map]
      rfl

theorem label?_text (hρ : ρ.Plain) (line : List Char) :
    label? (ρ.text line) = (label? line).map ρ.text := by
  have hproc : (Scan.literal? ".proc" (ρ.text (trimStart line)) >>= Scan.blanks?) =
      (Scan.literal? ".proc" (trimStart line) >>= Scan.blanks?).map ρ.text := by
    rw [ρ.literal?_text (by decide +kernel) rfl]
    cases Scan.literal? ".proc" (trimStart line) with
    | none => rfl
    | some rest => exact ρ.blanks?_inside rest
  unfold label?
  dsimp only
  rw [ρ.trimStart_text, hproc]
  cases Scan.literal? ".proc" (trimStart line) >>= Scan.blanks? with
  | none => exact hρ.nameBeforeColon?_text _
  | some rest => exact hρ.nameBeforeColon?_text rest

theorem declared?_text (hρ : ρ.Plain) (line : List Char) :
    declared? (ρ.text line) = (declared? line).map ρ.text := by
  have hread {directive : String} (hword : directive.toList.all Gas.isWordChar = true) :
      (arguments? directive (ρ.text line) >>= Scan.run? isNameChar) =
        (arguments? directive line >>= Scan.run? isNameChar).map
          fun found => (ρ.text found.1, ρ.text found.2) := by
    rw [ρ.arguments?_text hword]
    cases arguments? directive line with
    | none => rfl
    | some args => exact hρ.run?_text args
  have hglobl : "globl".toList.all Gas.isWordChar = true := by decide +kernel
  have hglobal : "global".toList.all Gas.isWordChar = true := by decide +kernel
  have hweak : "weak".toList.all Gas.isWordChar = true := by decide +kernel
  simp only [declared?, List.findSome?_cons, List.findSome?_nil, hread hglobl, hread hglobal,
    hread hweak]
  cases arguments? "globl" line >>= Scan.run? isNameChar with
  | some found => rfl
  | none =>
    cases arguments? "global" line >>= Scan.run? isNameChar with
    | some found => rfl
    | none => cases arguments? "weak" line >>= Scan.run? isNameChar <;> rfl

/-- The mark by which a type is that of a function. -/
theorem functionMark_eq (name s : List Char) :
    (match s with
      | c :: rest =>
        if c = '@' ∨ c = '%' then (Scan.literal? "function" rest).map fun _ => name else none
      | [] => none) =
      if (s.head? = some '@' ∨ s.head? = some '%') ∧ "function".toList <+: s.tail then some name
      else none := by
  cases s with
  | nil => rfl
  | cons c rest =>
    simp only [List.head?_cons, Option.some.injEq, List.tail_cons, Scan.literal?, map_dropLead?_eq,
      ite_and]

theorem functionMark_text (hρ : ρ.Plain) (s : List Char) :
    ((ρ.text s).head? = some '@' ∨ (ρ.text s).head? = some '%') ∧
        "function".toList <+: (ρ.text s).tail ↔
      (s.head? = some '@' ∨ s.head? = some '%') ∧ "function".toList <+: s.tail := by
  have hat : Gas.isWordChar '@' = false := rfl
  have hpercent : Gas.isWordChar '%' = false := rfl
  rw [head?_eq_some_iff_text hat, head?_eq_some_iff_text hpercent, and_congr_right_iff]
  intro hhead
  have hrest : (ρ.text s).tail = ρ.text s.tail := by
    obtain hhead | hhead := hhead
    · obtain ⟨rest, rfl⟩ := List.head?_eq_some_iff.1 hhead
      rw [ρ.text_cons hat, List.tail_cons, List.tail_cons]
    · obtain ⟨rest, rfl⟩ := List.head?_eq_some_iff.1 hhead
      rw [ρ.text_cons hpercent, List.tail_cons, List.tail_cons]
  rw [hrest]
  exact ρ.prefix_text_iff (by decide) (by decide +kernel) hρ.function s.tail

theorem functionType?_text (hρ : ρ.Plain) (line : List Char) :
    functionType? (ρ.text line) = (functionType? line).map ρ.text := by
  have harguments : arguments? "type" (ρ.text line) = (arguments? "type" line).map ρ.text :=
    ρ.arguments?_text (by decide +kernel) line
  have hcomma : ∀ c ∈ ",".toList, Gas.isWordChar c = false := List.forall_mem_singleton.2 rfl
  unfold functionType?
  rw [harguments]
  cases arguments? "type" line with
  | none => rfl
  | some args =>
    simp only [Option.map_some, Option.bind_eq_bind, Option.bind_some, hρ.run?_text]
    cases Scan.run? isNameChar args with
    | none => rfl
    | some found =>
      simp only [Option.map_some, Option.bind_some, ρ.trimStart_text, Scan.literal?,
        ρ.dropLead?_text hcomma]
      cases dropLead? ",".toList (trimStart found.2) with
      | none => rfl
      | some rest =>
        simp only [Option.map_some, Option.bind_some, ρ.trimStart_text]
        calc
          _ = _ := functionMark_eq (ρ.text found.1) (ρ.text (trimStart rest))
          _ = Option.map ρ.text _ := by
            rw [if_congr (hρ.functionMark_text (trimStart rest)) rfl rfl,
              apply_ite (Option.map ρ.text)]
            rfl
          _ = _ := congrArg (Option.map ρ.text) (functionMark_eq found.1 (trimStart rest)).symm

theorem isLocal_text (hρ : ρ.Plain) (name : List Char) :
    Gas.isLocal (ρ.text name) = Gas.isLocal name := by
  have hdotted : ".L".toList <+: ρ.text name ↔ ".L".toList <+: name :=
    ρ.prefix_text_iff (by decide) (by decide +kernel)
      (fun w hw => ρ.prefix_rename_iff_of_own rfl hw) name
  have hplain : "L.".toList <+: ρ.text name ↔ "L.".toList <+: name :=
    ρ.prefix_text_iff (by decide) (by decide +kernel) hρ.isLocal name
  rw [Bool.eq_iff_iff, Gas.isLocal, Gas.isLocal]
  simp only [Bool.or_eq_true, List.isPrefixOf_iff_prefix, hdotted, hplain]

/-! ### Symbols -/

theorem splitOnP_text (hρ : ρ.Plain) (hq : ∀ c, Gas.isWordChar c = true → q c = true)
    (s : List Char) :
    (ρ.text s).splitOnP (fun c => !q c) = (s.splitOnP fun c => !q c).map ρ.text := by
  -- By induction on the length, since both texts are cut at any separator.
  induction hn : s.length using Nat.strongRecOn generalizing s with
  | ind n ih =>
    by_cases hsep : ∃ c ∈ s, q c = false
    · obtain ⟨sep, hmem, hsep⟩ := hsep
      obtain ⟨left, right, rfl⟩ := List.append_of_mem hmem
      have hword : Gas.isWordChar sep = false := by
        rw [← Bool.not_eq_true]
        intro hword
        rw [hq sep hword] at hsep
        cases hsep
      rw [List.length_append, List.length_cons] at hn
      rw [ρ.text_append_cons hword, List.splitOnP_append_cons _ _ (by simp [hsep]),
        List.splitOnP_append_cons _ _ (by simp [hsep]), List.map_append,
        ih left.length (by omega) left rfl, ih right.length (by omega) right rfl]
    · have hall : ∀ c ∈ s, q c = true := by simpa using hsep
      rw [List.splitOnP_eq_singleton fun c hc => by simp [hρ.forall_mem_text hq hall c hc],
        List.splitOnP_eq_singleton fun c hc => by simp [hall c hc]]
      rfl

theorem names_text (hρ : ρ.Plain) (line : List Char) :
    Scan.names (ρ.text line) = (Scan.names line).map ρ.text := by
  have hsymbol (c : Char) (hc : Gas.isWordChar c = true) : Scan.isSymbolChar c = true :=
    isSymbolChar_of_isNameChar (isNameChar_of_isWordChar hc)
  have hnonempty : ((fun token : List Char => !token.isEmpty) ∘ ρ.text) =
      fun token => !token.isEmpty := by
    funext token
    simp [ρ.isEmpty_text]
  rw [Scan.names, Scan.symbols, hρ.splitOnP_text hsymbol, List.filter_map, hnonempty,
    List.flatMap_map, Scan.names, List.map_flatMap]
  simp only [symbolNames_text]
  rfl

/-! ### Kinds -/

/-- **A line stays what it is**, and defines its label under its new name. -/
theorem classify_text (hρ : ρ.Plain) (line : List Char) :
    classify (ρ.text line) = ρ.kind (classify line) := by
  simp only [classify, hρ.label?_text, ρ.all_isBlank_text, ρ.isData_text, ρ.isDirective_text,
    ρ.isComment_text]
  split
  · rfl
  · cases label? line with
    | some name => rfl
    | none =>
      dsimp only [Option.map_none]
      repeat' split
      all_goals rfl

end Plain

end Renaming

end Gas

end AsmExplorer
