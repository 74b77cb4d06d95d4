import AsmExplorer.Compiler.Compile
import AsmExplorer.Proofs.Listing.Correspondence
import AsmExplorer.Proofs.Listing.Hiding
import AsmExplorer.Proofs.Text.Columns
import AsmExplorer.Proofs.Text.Squashing

/-!
# The numbers of lines

A unit is shown as one text, in which a line is known by its number only.  The index of the unit
knows the lines of the listing by their numbers, too.  The two agree as long as no line of the
listing holds a line feed, and none does:

* `Scan.lineFeed_not_mem_shown` : the lines of a text hold no line feed, and to expand their tabs
  and to squash their blanks brings in spaces only.
* `CompiledUnit.isNumbered_iff` : **a unit of such lines is numbered as its index says**, unless it
  has none; for the empty text still shows one empty line.
-/

namespace AsmExplorer

/-! ### Lines without line feeds -/

namespace Text

theorem lineFeed_not_mem_of_mem_lines {text line : List Char} (h : line ∈ lines text) :
    '\n' ∉ line := by
  fun_induction lines text generalizing line with
  | case1 => cases h
  | case2 rest ih =>
    obtain rfl | h := List.mem_cons.1 h
    · exact List.not_mem_nil
    · exact ih h
  | case3 rest ih =>
    obtain rfl | h := List.mem_cons.1 h
    · exact List.not_mem_nil
    · exact ih h
  | case4 c rest _ hc hnil ih =>
    obtain rfl := List.mem_singleton.1 h
    simpa using Ne.symm hc
  | case5 c rest _ hc first more hcons ih =>
    obtain rfl | h := List.mem_cons.1 h
    · have hfirst : '\n' ∉ first := ih (by simp [hcons])
      simpa [hfirst] using Ne.symm hc
    · exact ih (by simp [hcons, h])

end Text

theorem Scan.lineFeed_not_mem_shown {line : List Char} (h : '\n' ∉ line) (trim : Bool) :
    '\n' ∉ (shown trim line).toList := by
  have hexpand : '\n' ∉ Text.expandTabs line := by
    intro hmem
    obtain heq | hmem := (Text.expands_expandTabs line).eq_or_mem hmem
    · cases heq
    · exact h hmem
  rw [shown, String.toList_ofList]
  split
  · intro hmem
    obtain heq | hmem := Text.eq_or_mem_of_mem_squash hmem
    · cases heq
    · exact hexpand hmem
  · exact hexpand

theorem CompilerKind.lineFeed_not_mem_of_mem_parse {kind : CompilerKind} {text : List Char}
    {filters : FilterOptions} {line : ParsedLine} (h : line ∈ kind.parse text filters) :
    '\n' ∉ line.text.toList := by
  have hmem := (kind.parse_sublist_unfiltered text filters).subset h
  obtain ⟨i, hi⟩ := List.getElem?_of_mem hmem
  rw [parse_unfiltered, List.getElem?_zipWith_eq_some] at hi
  obtain ⟨written, place, hwritten, -, rfl⟩ := hi
  have hline := Text.lineFeed_not_mem_of_mem_lines (List.mem_of_getElem? hwritten)
  exact Scan.lineFeed_not_mem_shown hline filters.trim

/-- The lines of a compilation have the texts that the parser gives them. -/
theorem CompilerInfo.map_text_linesOf (info : CompilerInfo) (filters : FilterOptions) (file : Path)
    (text : List Char) :
    (info.linesOf filters file text).map ParsedLine.text =
      (info.kind.parse text filters).map ParsedLine.text := by
  rw [linesOf]
  split
  · rw [List.map_map]
    rfl
  · rfl

/-! ### Documents -/

/-- The lines of a document with the given text: what stands between its line feeds. -/
def documentLines (text : String) : List String :=
  (text.toList.splitOn '\n').map String.ofList

theorem documentLines_intercalate {texts : List String} (hne : texts ≠ [])
    (h : ∀ text ∈ texts, '\n' ∉ text.toList) : documentLines ("\n".intercalate texts) = texts := by
  have hfeeds : ∀ chars ∈ texts.map String.toList, '\n' ∉ chars := by simpa using h
  have hsplit : (['\n'].intercalate (texts.map String.toList)).splitOn '\n' =
      texts.map String.toList :=
    List.splitOn_intercalate '\n' hfeeds (by simpa using hne)
  have hfeed : "\n".toList = ['\n'] := rfl
  rw [documentLines, String.toList_intercalate, hfeed, hsplit, List.map_map]
  simp [Function.comp_def, String.ofList_toList]

namespace CompiledUnit

variable {u : CompiledUnit}

/-- Line `k` of the document is line `k` of the listing, which came from the line `origin`. -/
def CameFrom (u : CompiledUnit) (k : Nat) (origin : SourceLine) : Prop :=
  ∃ line, u.lines[k]? = some line ∧ (documentLines u.content)[k]? = some line.text ∧
    line.origin? = some origin

/-- The document in which a unit is shown is numbered as the index of the unit says. -/
structure IsNumbered (u : CompiledUnit) : Prop where
  /-- The document holds the lines of the listing, in order. -/
  documentLines_eq : documentLines u.content = u.lines.map ParsedLine.text
  /-- There are as many lines as the index counts. -/
  length_eq : (documentLines u.content).length = u.index.lineCount
  sourceLine?_iff : ∀ k origin, u.index.sourceLine? k = some origin ↔ u.CameFrom k origin
  assemblyLines?_iff : ∀ file line k, (∃ ks, u.index.assemblyLines? file line = some ks ∧ k ∈ ks) ↔
    ∃ origin, u.CameFrom k origin ∧ origin.file = file ∧ origin.line = line

theorem isNumbered_of_documentLines_eq
    (h : documentLines u.content = u.lines.map ParsedLine.text) : u.IsNumbered := by
  have hsource (k : Nat) (origin : SourceLine) :
      u.index.sourceLine? k = some origin ↔ u.CameFrom k origin := by
    rw [u.index_eq, LineIndex.sourceLine?_build, Option.bind_eq_some_iff]
    refine exists_congr fun line => and_congr_right fun hk => ?_
    rw [h, List.getElem?_map, hk, Option.map_some]
    exact (and_iff_right rfl).symm
  refine ⟨h, ?_, hsource, fun file line k => ?_⟩
  · rw [h, List.length_map, u.index_eq, LineIndex.lineCount, LineIndex.origins_build,
      List.length_map]
  · have hbucket : (∃ ks, u.index.assemblyLines? file line = some ks ∧ k ∈ ks) ↔
        ∃ origin, u.index.sourceLine? k = some origin ∧ origin.file = file ∧
          origin.line = line := by
      rw [u.index_eq]
      exact LineIndex.mem_assemblyLines?_build
    rw [hbucket]
    simp only [hsource]

/-- **Lines without line feeds keep their numbers**, if there are any. -/
theorem isNumbered_iff (h : ∀ text ∈ u.lines.map ParsedLine.text, '\n' ∉ text.toList) :
    u.IsNumbered ↔ u.lines.map ParsedLine.text ≠ [] := by
  constructor
  · intro hnumbered hnil
    -- the empty text is one empty line
    have hlines := hnumbered.documentLines_eq
    rw [content, hnil] at hlines
    cases hlines
  · intro hne
    exact isNumbered_of_documentLines_eq (documentLines_intercalate hne h)

/-- **The lines of a listing are numbered as the index says.**  For a listing of any kind, whatever
it contains, and for any filters, what stands between the line feeds of the document are the lines
of the unit, and the index means them by their numbers, exactly if the filters leave a line.  So it
is when the sources of the lines are seen from the directory of the file that was compiled. -/
theorem lines_numbered (text : List Char) (filters : FilterOptions) (primary assembly : Uri) :
    (∀ kind : CompilerKind, (ofLines primary assembly (kind.parse text filters)).IsNumbered ↔
      kind.parse text filters ≠ []) ∧
    ∀ (info : CompilerInfo) (file : Path),
      (ofLines primary assembly (info.linesOf filters file text)).IsNumbered ↔
        info.kind.parse text filters ≠ [] := by
  have hfeeds (kind : CompilerKind) : ∀ shown ∈ (kind.parse text filters).map ParsedLine.text,
      '\n' ∉ shown.toList := by
    intro shown hshown
    obtain ⟨line, hline, rfl⟩ := List.mem_map.1 hshown
    exact CompilerKind.lineFeed_not_mem_of_mem_parse hline
  have hiff {lines : List ParsedLine} {kind : CompilerKind} (htexts : lines.map ParsedLine.text =
      (kind.parse text filters).map ParsedLine.text) :
      (ofLines primary assembly lines).IsNumbered ↔ kind.parse text filters ≠ [] := by
    have hnumbered : (ofLines primary assembly lines).IsNumbered ↔
        lines.map ParsedLine.text ≠ [] :=
      isNumbered_iff fun shown hshown => hfeeds kind shown (htexts ▸ hshown)
    rw [hnumbered, htexts, Ne, List.map_eq_nil_iff]
  exact ⟨fun kind => hiff rfl, fun info file => hiff (info.map_text_linesOf filters file text)⟩

/-- Carriage returns, tabs, quotes, a blank line, and a last line without an end. -/
example :
    documentLines (ofLines default default (CompilerKind.gcc.parse
      "f:\r\n\t.ascii \"x\ty\"\n\n\tret\r # \"".toList .off)).content =
      ["f:", "        .ascii \"x       y\"", "", "        ret\r # \""] := by
  decide +kernel

end CompiledUnit

end AsmExplorer
