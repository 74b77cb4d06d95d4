import AsmExplorer.Proofs.Listing.Labels
import AsmExplorer.Proofs.Listing.PlainNames

/-!
# Listings under new names

A renaming of the symbols leaves the places in force as they are, and the debug sections.  So it can
change what is shown of a listing only by what it makes of the labels: a line that defines a label
may be taken for an instruction afterwards, since a name like `square(int)` is no label.

* `Gas.Renames` : a text is a listing under new names.
* `Gas.Renaming.entries_text` : the entries of the renamed listing.
* `Gas.Renaming.classify_text_eq_instruction` : a label that is none under its new name is an
  instruction.
* `Gas.Renames.exists_shows` : **what is shown of the lines that define no label is the same**, with
  the same places, where no library code is hidden.
* `Gas.Renames.exists_shows_plain` : **where the new names are words, all that is shown is the
  same**, under any filters.
-/

namespace AsmExplorer

namespace Gas

variable {ρ : Renaming} {lines : List (List Char)} {line : List Char} {s s' : Survey} {e : Entry}
  {i : Nat}

namespace Renaming

/-! ### Files -/

variable (ρ) in
/-- A renaming leaves the names of the files of a listing as they are. -/
def KeepsFiles (lines : List (List Char)) : Prop :=
  ∀ line ∈ lines, (arguments? "file" line).isSome → ρ.text line = line

/-- What is read of a `.file` directive only is the same. -/
theorem eq_of_keepsFiles {α : Type} {f : List Char → Option α}
    (hnone : ∀ line, arguments? "file" line = none → f line = none) (hfiles : ρ.KeepsFiles lines)
    (hmem : line ∈ lines) : f (ρ.text line) = f line := by
  cases hfile : arguments? "file" line with
  | some args => rw [hfiles line hmem (by simp [hfile])]
  | none =>
    have hfile' : arguments? "file" (ρ.text line) = none := by
      rw [ρ.arguments?_text (by decide +kernel), hfile]
      rfl
    rw [hnone line hfile, hnone _ hfile']

theorem fileEntry?_eq_none (h : arguments? "file" line = none) : fileEntry? line = none := by
  simp [h, fileEntry?]

theorem mainFile?_eq_none (h : arguments? "file" line = none) : mainFile? line = none := by
  simp [mainFile?, h]

theorem fileEntry?_text (hfiles : ρ.KeepsFiles lines) (hmem : line ∈ lines) :
    fileEntry? (ρ.text line) = fileEntry? line :=
  eq_of_keepsFiles (fun _ => fileEntry?_eq_none) hfiles hmem

theorem mainFile?_text (hfiles : ρ.KeepsFiles lines) (hmem : line ∈ lines) :
    mainFile? (ρ.text line) = mainFile? line :=
  eq_of_keepsFiles (fun _ => mainFile?_eq_none) hfiles hmem

/-- **The file table is the same.** -/
theorem file?_survey_text (hfiles : ρ.KeepsFiles lines) (number : UInt32) :
    (survey (lines.map ρ.text)).file? number = (survey lines).file? number := by
  have hpath : ∀ line ∈ lines, pathOf? number (ρ.text line) = pathOf? number line := by
    intro line hmem
    rw [pathOf?, pathOf?, fileEntry?_text hfiles hmem]
  have hpaths : (lines.reverse.map ρ.text).filterMap (pathOf? number) =
      lines.reverse.filterMap (pathOf? number) := by
    rw [List.filterMap_map]
    exact List.filterMap_congr fun line hmem => hpath line (List.mem_reverse.1 hmem)
  rw [file?_survey, file?_survey, List.findSomeRev?_eq_findSome?_reverse,
    List.findSomeRev?_eq_findSome?_reverse, ← List.map_reverse, ← List.head?_filterMap, hpaths,
    List.head?_filterMap]

/-! ### Entries -/

theorem placeAfter_text (h : ∀ number, s'.file? number = s.file? number)
    (place : Option SourceLocation) (line : List Char) :
    placeAfter s' place (ρ.text line) = placeAfter s place line := by
  have hplace (file number : List Char) (column : Option (List Char)) :
      placeOf s' file number column = placeOf s file number column := by
    rw [placeOf, placeOf, funext h]
  simp only [placeAfter, ρ.loc?_text, ρ.resetsSource_text, hplace]

variable (ρ) in
/-- An entry for the line under new names, at the same place. -/
def entry (e : Entry) : Entry :=
  { e with line := ρ.text e.line, kind := classify (ρ.text e.line) }

theorem entriesFrom_text (h : ∀ number, s'.file? number = s.file? number)
    (place : Option SourceLocation) (inDebug : Bool) (lines : List (List Char)) :
    entriesFrom s' place inDebug (lines.map ρ.text) =
      (entriesFrom s place inDebug lines).map ρ.entry := by
  induction lines generalizing place inDebug with
  | nil => rfl
  | cons line lines ih =>
    rw [List.map_cons, entriesFrom, entriesFrom, List.map_cons, placeAfter_text h,
      ρ.section?_text, ih]
    rfl

/-- **The entries of a listing under new names** stand at the same places and in the same
sections. -/
theorem entries_text (hfiles : ρ.KeepsFiles lines) :
    entries (survey (lines.map ρ.text)) (lines.map ρ.text) =
      (entries (survey lines) lines).map ρ.entry :=
  entriesFrom_text (file?_survey_text hfiles) none false lines

theorem inScope_entry (filters : FilterOptions) (e : Entry) :
    (ρ.entry e).inScope filters = e.inScope filters := by
  rw [Entry.inScope, Entry.inScope]
  exact congrArg (fun call => !(filters.directives && e.inDebug) && (filters.debugCalls || !call))
    (ρ.isDebugCall_text e.line)

/-! ### Labels that are lost -/

theorem head?_of_label? {name : List Char} (hdot : (Text.trimStart line).head? ≠ some '.')
    (h : label? line = some name) :
    ∃ c, (Text.trimStart line).head? = some c ∧ (c = '"' ∨ isNameChar c = true) := by
  have hproc : (Scan.literal? ".proc" (Text.trimStart line) >>= Scan.blanks?) = none := by
    have hnone : Scan.literal? ".proc" (Text.trimStart line) = none := by
      rw [Option.eq_none_iff_forall_ne_some]
      intro rest hrest
      exact hdot (by rw [Scan.eq_of_literal? hrest]; rfl)
    rw [hnone]
    rfl
  rw [label?, hproc] at h
  obtain ⟨hne, hall, mark, rest, hmark, heq⟩ := exists_of_nameBeforeColon? h
  rw [heq]
  cases hmark with
  | plain =>
    obtain ⟨c, more, rfl⟩ := List.exists_cons_of_ne_nil hne
    exact ⟨c, rfl, .inr (hall c List.mem_cons_self)⟩
  | quoted => exact ⟨'"', rfl, .inl rfl⟩

/-- **A label that is none under its new name is an instruction.** -/
theorem classify_text_eq_instruction {name : List Char}
    (hdot : (Text.trimStart line).head? ≠ some '.') (h : label? line = some name)
    (h' : label? (ρ.text line) = none) : classify (ρ.text line) = .instruction := by
  obtain ⟨c, hhead, hc⟩ := head?_of_label? hdot h
  have hne {d : Char} (hquote : d ≠ '"') (hname : isNameChar d = false) : c ≠ d := by
    rintro rfl
    obtain rfl | hc := hc
    · exact hquote rfl
    · rw [hname] at hc
      cases hc
  have hblank : line.all Text.isBlank = false := by
    rw [all_isBlank_eq, List.isEmpty_eq_false_iff]
    intro hnil
    rw [hnil] at hhead
    cases hhead
  have hafter : afterDot? line = none := by
    rw [Option.eq_none_iff_forall_ne_some]
    intro rest hrest
    exact hdot (by rw [afterDot?_eq_some_iff.1 hrest]; rfl)
  have hcomment : isComment line = false := by
    simp [isComment_eq, hhead, hne (d := '#') (by decide) rfl, hne (d := ';') (by decide) rfl,
      hne (d := '/') (by decide) rfl]
  have hdata : isData line = false := by simp [isData, hafter]
  have hdirective : isDirective line = false := by simp [isDirective, hafter]
  simp [classify, h', ρ.all_isBlank_text, hblank, ρ.isData_text, hdata, ρ.isDirective_text,
    hdirective, ρ.isComment_text, hcomment]

end Renaming

/-! ### What is shown -/

/-- A text is a listing with the words of each line renamed.  The names of its files are no names of
symbols, so they are left as they are. -/
structure Renames (ρ : Renaming) (listing readable : List Char) : Prop where
  lines_eq : Text.lines readable = (Text.lines listing).map ρ.text
  files : ρ.KeepsFiles (Text.lines listing)

/-- **What a renaming leaves as it is.**  Where no library code is hidden, a line that defines no
label, neither before nor after, is shown exactly if it was shown before, with the same place. -/
theorem Renames.exists_shows {listing readable : List Char} (h : Renames ρ listing readable)
    {filters : FilterOptions} (hlibrary : filters.libraryCode = false) :
    ∃ kept kept', Shows filters listing kept ∧ Shows filters readable kept' ∧
      ∀ i line, (Text.lines listing)[i]? = some line →
        label? line = none → label? (ρ.text line) = none →
          (i ∈ kept' ↔ i ∈ kept) ∧
          ∀ loc, Attributed (Text.lines readable) i loc ↔
            Attributed (Text.lines listing) i loc := by
  obtain ⟨kept, hshows, hkept⟩ := Gas.exists_shows filters listing
  obtain ⟨kept', hshows', hkept'⟩ := Gas.exists_shows filters readable
  refine ⟨kept, kept', hshows, hshows', fun i line hline hlabel hlabel' => ?_⟩
  obtain ⟨e, hat, rfl, hkind⟩ := exists_entry hline
  have hat' : (entries (survey (Text.lines readable)) (Text.lines readable))[i]? =
      some (ρ.entry e) := by
    rw [h.lines_eq, Renaming.entries_text h.files, List.getElem?_map, hat]
    rfl
  have hkind' : (ρ.entry e).kind = e.kind := by
    rw [hkind]
    exact ρ.classify_text hlabel hlabel'
  have hnolabel : ∀ name, e.kind ≠ .label name := by
    intro name hname
    rw [hkind, classify_eq_label_iff, hlabel] at hname
    cases hname
  have hkeeps : ∀ used used', Entry.keepsKind filters used' e.kind =
      Entry.keepsKind filters used e.kind := by
    intro used used'
    cases hcase : e.kind with
    | label name => exact absurd hcase (hnolabel name)
    | directive | data | comment | blank | instruction => rfl
  constructor
  · rw [hkept', hkept, shownAt_iff hlibrary hat', shownAt_iff hlibrary hat,
      Renaming.inScope_entry, hkind', hkeeps]
  · intro loc
    rw [← source_eq_some_iff hat', ← source_eq_some_iff hat, Entry.source, Entry.source, hkind']
    rfl

/-! ### Names that stay names -/

namespace Renaming

/-- What is known about a listing, under new names. -/
def surveyed (ρ : Renaming) (s : Survey) : Survey :=
  { s with used := s.used.map ρ.text }

namespace Plain

theorem addLine_text (hρ : ρ.Plain) (hfiles : ρ.KeepsFiles lines) (hmem : line ∈ lines)
    (s : Survey) (inDebug : Bool) :
    (ρ.surveyed s).addLine inDebug (ρ.text line) = ρ.surveyed (s.addLine inDebug line) := by
  simp only [Survey.addLine, fileEntry?_text hfiles hmem, mainFile?_text hfiles hmem,
    hρ.declared?_text, hρ.functionType?_text, hρ.classify_text, hρ.names_text]
  cases fileEntry? line with
  | some entry => cases hnumber : Scan.number? entry.1 <;> simp [hnumber, surveyed]
  | none =>
    cases mainFile? line with
    | some main => rfl
    | none =>
      cases declared? line with
      | some name => rfl
      | none =>
        cases functionType? line with
        | some name => rfl
        | none =>
          cases classify line with
          | instruction => simp [surveyed, kind]
          | data => cases inDebug <;> simp [surveyed, kind]
          | label name => rfl
          | directive | comment | blank => rfl

theorem surveyFrom_text (hρ : ρ.Plain) (hfiles : ρ.KeepsFiles lines) (s : Survey)
    (inDebug : Bool) :
    surveyFrom (ρ.surveyed s) inDebug (lines.map ρ.text) =
      ρ.surveyed (surveyFrom s inDebug lines) := by
  induction lines generalizing s inDebug with
  | nil => rfl
  | cons line lines ih =>
    have hrest : ρ.KeepsFiles lines :=
      fun other hmem => hfiles other (List.mem_cons_of_mem line hmem)
    rw [List.map_cons, surveyFrom, surveyFrom, ρ.section?_text,
      hρ.addLine_text hfiles List.mem_cons_self, ih hrest]

/-- **The survey of a listing under new names** knows the same files, and the new names. -/
theorem survey_text (hρ : ρ.Plain) (hfiles : ρ.KeepsFiles lines) :
    survey (lines.map ρ.text) = ρ.surveyed (survey lines) :=
  hρ.surveyFrom_text hfiles {} false

/-! ### Entries and blocks -/

variable {es : List Entry}

theorem kind_entry (hρ : ρ.Plain) (he : e.kind = classify e.line) :
    (ρ.entry e).kind = ρ.kind e.kind := by
  rw [he]
  exact hρ.classify_text e.line

theorem kind_entry_eq_instruction_iff (hρ : ρ.Plain) (he : e.kind = classify e.line) :
    (ρ.entry e).kind = .instruction ↔ e.kind = .instruction := by
  rw [hρ.kind_entry he]
  cases e.kind <;> simp [kind]

theorem source_entry (hρ : ρ.Plain) (he : e.kind = classify e.line) :
    (ρ.entry e).source = e.source :=
  if_congr (hρ.kind_entry_eq_instruction_iff he) rfl rfl

theorem startsBlock_entry (hρ : ρ.Plain) (he : e.kind = classify e.line) :
    (ρ.entry e).startsBlock = e.startsBlock := by
  rw [Entry.startsBlock, Entry.startsBlock, hρ.kind_entry he]
  cases e.kind with
  | label name => exact congrArg (! ·) (hρ.isLocal_text name)
  | directive | data | comment | blank | instruction => rfl

theorem blocks_map_entry (hρ : ρ.Plain) (hes : ∀ e ∈ es, e.kind = classify e.line) :
    blocks (es.map ρ.entry) = (blocks es).map (List.map ρ.entry) := by
  induction es with
  | nil => rfl
  | cons e es ih =>
    obtain ⟨he, hrest⟩ := List.forall_mem_cons.1 hes
    rw [List.map_cons, blocks, blocks, ih hrest, hρ.startsBlock_entry he]
    cases blocks es with
    | nil => rfl
    | cons block more => cases e.startsBlock <;> rfl

theorem isMainCode_entry (hρ : ρ.Plain) (he : e.kind = classify e.line) :
    (ρ.entry e).isMainCode (ρ.surveyed s) = e.isMainCode s := by
  rw [Entry.isMainCode, Entry.isMainCode, hρ.source_entry he]
  rfl

theorem any_map_entry {p p' : Entry → Bool} (h : ∀ e ∈ es, p' (ρ.entry e) = p e) :
    (es.map ρ.entry).any p' = es.any p := by
  induction es with
  | nil => rfl
  | cons e es ih =>
    obtain ⟨he, hrest⟩ := List.forall_mem_cons.1 h
    rw [List.map_cons, List.any_cons, List.any_cons, he, ih hrest]

theorem isLibrary_map_entry (hρ : ρ.Plain) {block : List Entry}
    (hblock : ∀ e ∈ block, e.kind = classify e.line) :
    isLibrary (ρ.surveyed s) (block.map ρ.entry) = isLibrary s block := by
  have hinstruction : (block.map ρ.entry).any (·.kind == .instruction) =
      block.any (·.kind == .instruction) := by
    refine any_map_entry fun e he => ?_
    rw [Bool.eq_iff_iff, beq_iff_eq, beq_iff_eq, hρ.kind_entry_eq_instruction_iff (hblock e he)]
  have hmain : (block.map ρ.entry).any (·.isMainCode (ρ.surveyed s)) =
      block.any (·.isMainCode s) :=
    any_map_entry fun e he => hρ.isMainCode_entry (hblock e he)
  rw [isLibrary, isLibrary, hinstruction, hmain]

theorem filter_blocks_text (hρ : ρ.Plain) (hes : ∀ e ∈ es, e.kind = classify e.line) :
    ((blocks (es.map ρ.entry)).filter fun b => !isLibrary (ρ.surveyed s) b).flatten =
      ((blocks es).filter fun b => !isLibrary s b).flatten.map ρ.entry := by
  have hsame : ∀ block ∈ blocks es,
      (!isLibrary (ρ.surveyed s) (block.map ρ.entry)) = !isLibrary s block := by
    intro block hmem
    rw [hρ.isLibrary_map_entry fun e he => hes e ?_]
    rw [← flatten_blocks es]
    exact List.mem_flatten.2 ⟨block, hmem, he⟩
  rw [hρ.blocks_map_entry hes, List.filter_map, ← List.map_flatten]
  congr 2
  exact List.filter_congr hsame

/-- The new name of a label is among the new names referred to only if the label was referred to. -/
theorem keepsKind_entry (hρ : ρ.Plain) (filters : FilterOptions) (he : e.kind = classify e.line)
    (hdistinct : ∀ name, e.kind = .label name →
      ∀ other ∈ s.used, ρ.text other = ρ.text name → other = name) :
    Entry.keepsKind filters (ρ.surveyed s).used (ρ.entry e).kind =
      Entry.keepsKind filters s.used e.kind := by
  rw [hρ.kind_entry he]
  cases hkind : e.kind with
  | label name =>
    have hused : (s.used.map ρ.text).contains (ρ.text name) = s.used.contains name := by
      rw [Bool.eq_iff_iff, List.contains_iff_mem, List.contains_iff_mem, List.mem_map]
      constructor
      · rintro ⟨other, hother, heq⟩
        exact hdistinct name hkind other hother heq ▸ hother
      · exact fun hmem => ⟨name, hmem, rfl⟩
    exact congrArg (!filters.labels || ·) hused
  | directive | data | comment | blank | instruction => rfl

/-- **The entries shown of a listing under new names** are those shown of the listing, renamed. -/
theorem visible_text (hρ : ρ.Plain) (filters : FilterOptions)
    (hes : ∀ e ∈ es, e.kind = classify e.line)
    (hdistinct : ∀ e ∈ es, ∀ name, e.kind = .label name →
      ∀ other ∈ s.used, ρ.text other = ρ.text name → other = name) :
    visible filters (ρ.surveyed s) (es.map ρ.entry) = (visible filters s es).map ρ.entry := by
  have hscope : (es.map ρ.entry).filter (Entry.inScope filters) =
      (es.filter (Entry.inScope filters)).map ρ.entry := by
    rw [List.filter_map]
    exact congrArg (List.map ρ.entry) (List.filter_congr fun e _ => inScope_entry filters e)
  have hmem : ∀ e ∈ es.filter (Entry.inScope filters), e.kind = classify e.line :=
    fun e he => hes e (List.mem_of_mem_filter he)
  -- What is left before the last filter, which alone asks for the names referred to.
  have hkept : (if filters.libraryCode then
        ((blocks ((es.map ρ.entry).filter (Entry.inScope filters))).filter
          fun b => !isLibrary (ρ.surveyed s) b).flatten
      else (es.map ρ.entry).filter (Entry.inScope filters)) =
      (if filters.libraryCode then
        ((blocks (es.filter (Entry.inScope filters))).filter fun b => !isLibrary s b).flatten
      else es.filter (Entry.inScope filters)).map ρ.entry := by
    rw [hscope]
    split
    · exact hρ.filter_blocks_text hmem
    · rfl
  rw [visible, visible, hkept, List.filter_map]
  refine congrArg (List.map ρ.entry) (List.filter_congr fun e he => ?_)
  have hin : e ∈ es := by
    split at he
    · exact List.mem_of_mem_filter ((flatten_filter_blocks_sublist _ _).subset he)
    · exact List.mem_of_mem_filter he
  exact hρ.keepsKind_entry filters (hes e hin) (hdistinct e hin)

end Plain

variable (ρ) in
/-- No label gets the new name of another name that the listing refers to. -/
def Distinguishes (lines : List (List Char)) : Prop :=
  ∀ line ∈ lines, ∀ name, label? line = some name →
    ∀ other, Referenced lines other → ρ.text other = ρ.text name → other = name

end Renaming

/-- **Names that stay names.**  If the new names are words, and no label gets the new name of
another name, the lines shown are those at the same positions, under any filters, with the same
sources. -/
theorem Renames.exists_shows_plain {listing readable : List Char} (h : Renames ρ listing readable)
    (hρ : ρ.Plain) (hdistinct : ρ.Distinguishes (Text.lines listing)) (filters : FilterOptions) :
    ∃ kept, Shows filters listing kept ∧ Shows filters readable kept ∧
      (parse readable filters).map ParsedLine.source =
        (parse listing filters).map ParsedLine.source := by
  obtain ⟨kept, hascending, hentries, -⟩ := exists_shownAt filters
    (survey (Text.lines listing)) (entries (survey (Text.lines listing)) (Text.lines listing))
  have hentry : ∀ e ∈ entries (survey (Text.lines listing)) (Text.lines listing),
      e.line ∈ Text.lines listing ∧ e.kind = classify e.line := by
    intro e he
    obtain ⟨i, hat⟩ := List.mem_iff_getElem?.1 he
    obtain ⟨hline, hkind, -⟩ := of_getElem?_entriesFrom hat
    exact ⟨List.mem_of_getElem? hline, hkind⟩
  have hvisible : visible filters (survey (Text.lines readable))
      (entries (survey (Text.lines readable)) (Text.lines readable)) =
        (visible filters (survey (Text.lines listing))
          (entries (survey (Text.lines listing)) (Text.lines listing))).map ρ.entry := by
    rw [h.lines_eq, Renaming.entries_text h.files, hρ.survey_text h.files]
    refine hρ.visible_text filters (fun e he => (hentry e he).2) ?_
    intro e he name hname other hother
    obtain ⟨hmem, hkind⟩ := hentry e he
    exact hdistinct e.line hmem name (classify_eq_label_iff.1 (hkind ▸ hname)) other
      (mem_used_survey.1 hother)
  have hparse : parse readable filters = ((visible filters (survey (Text.lines listing))
      (entries (survey (Text.lines listing)) (Text.lines listing))).map ρ.entry).map
        (Entry.shown filters) := by
    rw [← hvisible]
    rfl
  refine ⟨kept, ⟨hascending, ?_⟩, ⟨hascending, ?_⟩, ?_⟩
  · exact List.forall₂_map_right_iff.2 (hentries.imp fun _ _ => comesFrom_shown filters)
  · rw [hparse, List.map_map]
    refine List.forall₂_map_right_iff.2 (hentries.imp fun i e hat => ?_)
    refine comesFrom_shown filters ?_
    rw [h.lines_eq, Renaming.entries_text h.files, List.getElem?_map, hat]
    rfl
  · rw [hparse, parse, List.map_map, List.map_map, List.map_map]
    refine List.map_congr_left fun e he => ?_
    exact hρ.source_entry (hentry e ((visible_sublist _ _ _).subset he)).2

end Gas

end AsmExplorer
