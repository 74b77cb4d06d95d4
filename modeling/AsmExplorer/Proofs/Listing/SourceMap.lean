import AsmExplorer.Listing.Report
import AsmExplorer.Proofs.Data.Spelling
import AsmExplorer.Proofs.Listing.Correspondence
import AsmExplorer.Proofs.Uri.Views
import Mathlib.Data.List.Nodup

/-!
# The source map is a partition of the listing

The source map of a unit is the text of `CompiledUnit.reports`, one for each source.  A report holds
rows, and a row the numbers of the listing lines that its source line produced, all counted from 1.

* `MapRow.numbersIn_text` : the text of a row shows its numbers and no others.
* `CompiledUnit.mem_rows_iff` : a row is that of a source line that some listing line came from, and
  holds the positions of all that did.
* `Buckets.Ascending.length_unused_add` : the unused lines of a source and those of its rows make up
  all of its lines.
* `CompiledUnit.map_partitions` : **the map shows each mapped listing line once, on the row of its
  source line.**
-/

namespace AsmExplorer

/-! ### Numbers in a text -/

/-- The numbers in a text: the values of its runs of digits. -/
def numbersIn (text : List Char) : List Nat :=
  (text.splitOnP fun c => !c.isDigit).filterMap Text.nat?

section Numbers

variable (text more : List Char) {c : Char}

theorem numbersIn_append_cons (h : c.isDigit = false) :
    numbersIn (text ++ c :: more) = numbersIn text ++ numbersIn more := by
  rw [numbersIn, List.splitOnP_append_cons _ _ (by simp [h]), List.filterMap_append, numbersIn,
    numbersIn]

theorem numbersIn_cons (h : c.isDigit = false) : numbersIn (c :: more) = numbersIn more :=
  numbersIn_append_cons [] more h

theorem numbersIn_append (h : ∀ c ∈ text, c.isDigit = false) :
    numbersIn (text ++ more) = numbersIn more := by
  induction text with
  | nil => rfl
  | cons c text ih =>
    rw [List.forall_mem_cons] at h
    rw [List.cons_append, numbersIn_cons _ h.1, ih h.2]

theorem numbersIn_toString (n : Nat) : numbersIn (toString n).toList = [n] := by
  have hdigits : (toString n).toList = Nat.toDigits 10 n := Nat.toList_repr
  rw [hdigits, numbersIn, List.splitOnP_eq_singleton fun c hc => by
    rw [Json.isDigit_of_mem_toDigits hc, Bool.not_true]]
  simp [Json.nat?_toDigits]

theorem numbersIn_intercalate (numbers : List Nat) :
    numbersIn (", ".intercalate (numbers.map toString)).toList = numbers := by
  rw [String.toList_intercalate]
  induction numbers with
  | nil => rfl
  | cons n numbers ih =>
    cases numbers with
    | nil => simpa using numbersIn_toString n
    | cons m numbers =>
      have hcomma (rest : List Char) : ", ".toList ++ rest = ',' :: ' ' :: rest := rfl
      rw [List.map_cons, List.map_cons] at ih ⊢
      rw [List.map_cons, List.map_cons, List.intercalate_cons_cons, List.append_assoc, hcomma,
        numbersIn_append_cons _ _ (by rfl), numbersIn_toString, numbersIn_cons _ (by rfl),
        ih, List.singleton_append]

end Numbers

/-! ### Rows -/

/-- The row of a source line: its number and those of the listing lines that it produced, all
counted from 1. -/
structure MapRow where
  /-- The source line. -/
  line : Nat
  /-- The listing lines. -/
  numbers : List Nat
deriving DecidableEq

/-- The text of a row. -/
def MapRow.text (row : MapRow) : String :=
  "  " ++ padLeft 5 row.line ++ " -> " ++ ", ".intercalate (row.numbers.map toString)

/-- The row of a bucket. -/
def MapRow.ofBucket (bucket : Nat × List Nat) : MapRow :=
  ⟨bucket.1 + 1, bucket.2.map (· + 1)⟩

theorem MapRow.text_ofBucket (bucket : Nat × List Nat) :
    (MapRow.ofBucket bucket).text = CompiledUnit.mapRow bucket := by
  rw [text, ofBucket, CompiledUnit.mapRow, List.map_map]
  rfl

theorem toList_pushn (c : Char) (n : Nat) : ("".pushn c n).toList = List.replicate n c := by
  induction n with
  | zero => rfl
  | succ n ih =>
    have hpush : "".pushn c (n + 1) = ("".pushn c n).push c := rfl
    rw [hpush, String.toList_push, ih, List.replicate_succ']

theorem MapRow.numbersIn_text (row : MapRow) :
    numbersIn row.text.toList = row.line :: row.numbers := by
  set blanks := "  ".toList ++ List.replicate (5 - (toString row.line).length) ' ' with hblanks
  have htext : row.text.toList = blanks ++ ((toString row.line).toList ++
      ' ' :: '-' :: '>' :: ' ' :: (", ".intercalate (row.numbers.map toString)).toList) := by
    simp [text, padLeft, toList_pushn, hblanks]
  have hblank : ∀ c ∈ blanks, c.isDigit = false := by
    simp [hblanks]
  rw [htext, numbersIn_append _ _ hblank, numbersIn_append_cons _ _ (by rfl), numbersIn_toString,
    numbersIn_cons _ (by rfl), numbersIn_cons _ (by rfl), numbersIn_cons _ (by rfl),
    numbersIn_intercalate, List.singleton_append]

/-! ### Buckets -/

namespace Buckets

variable {buckets : Buckets}

theorem isSome_lookup_iff {line : Nat} :
    (buckets.lookup line).isSome = true ↔ line ∈ buckets.map (·.1) := by
  rw [List.lookup_isSome_iff, List.mem_map]
  simp only [beq_iff_eq, eq_comm (a := line)]

/-- The lines below `total` without a bucket and the buckets below `total` are `total` together. -/
theorem Ascending.length_unused_add (h : buckets.Ascending) (total : Nat) :
    ((List.range total).filter fun line => (buckets.lookup line).isNone).length +
      buckets.countP (fun bucket => bucket.1 < total) = total := by
  have hlines : (buckets.map (·.1)).Pairwise (· < ·) := List.pairwise_map.2 h
  -- the lines with a bucket are the buckets' lines
  have hperm : ((List.range total).filter fun line => (buckets.lookup line).isSome).Perm
      ((buckets.map (·.1)).filter (· < total)) := by
    refine (List.perm_ext_iff_of_nodup (List.nodup_range.filter _)
      ((hlines.imp Nat.ne_of_lt).filter _)).2 fun line => ?_
    rw [List.mem_filter, List.mem_filter, List.mem_range, isSome_lookup_iff, decide_eq_true_eq,
      and_comm]
  have hsome : (List.range total).countP (fun line => (buckets.lookup line).isSome) =
      buckets.countP fun bucket => bucket.1 < total := by
    rw [List.countP_eq_length_filter, hperm.length_eq, ← List.countP_eq_length_filter,
      List.countP_map]
    rfl
  have hboth := (List.range total).length_eq_countP_add_countP fun line =>
    (buckets.lookup line).isSome
  have hnone : ((List.range total).filter fun line => (buckets.lookup line).isNone).length =
      (List.range total).countP fun line => ¬(buckets.lookup line).isSome = true := by
    rw [List.countP_eq_length_filter]
    simp
  rw [List.length_range, hsome] at hboth
  omega

end Buckets

namespace LineIndex

variable {lines : List ParsedLine} {file : Uri} {line : Nat} {ks : List Nat}

/-- The buckets of a document are those of the source lines that listing lines came from. -/
theorem mem_buckets_build_iff :
    (line, ks) ∈ (build lines).buckets file ↔
      ks = positions (build lines).origins file line ∧ ks ≠ [] := by
  have hindexes := indexes_build lines
  have hlookup := hindexes.lookup_eq file line
  constructor
  · intro hmem
    rw [(hindexes.ascending file).lookup_of_mem hmem] at hlookup
    by_cases hnil : positions (build lines).origins file line = []
    · rw [if_pos hnil] at hlookup
      cases hlookup
    · rw [if_neg hnil, Option.some.injEq] at hlookup
      exact ⟨hlookup, hlookup ▸ hnil⟩
  · rintro ⟨rfl, hne⟩
    rw [if_neg hne] at hlookup
    obtain ⟨before, after, hbuckets, -⟩ := List.lookup_eq_some_iff.1 hlookup
    rw [buckets, hbuckets]
    simp

end LineIndex

/-! ### Order of documents -/

theorem Uri.pairwise_sort (us : List Uri) :
    (Uri.sort us).Pairwise fun f g => f.render ≤ g.render := by
  have hle (f g : Uri) : Uri.le f g = true ↔ f.render ≤ g.render := by
    rw [Uri.le, Bool.not_eq_true', decide_eq_false_iff_not, String.not_lt]
  have htrans (f g h : Uri) (hfg : Uri.le f g = true) (hgh : Uri.le g h = true) :
      Uri.le f h = true :=
    (hle f h).2 (String.le_trans ((hle f g).1 hfg) ((hle g h).1 hgh))
  have htotal (f g : Uri) : (Uri.le f g || Uri.le g f) = true := by
    rw [Bool.or_eq_true, hle, hle]
    exact String.le_total _ _
  exact (List.pairwise_mergeSort htrans htotal us).imp fun h => (hle _ _).1 h

theorem fileUri_eq_of_render_eq {names names' : List Path.EntryName}
    (h : (fileUri (.ofNames names)).render = (fileUri (.ofNames names')).render) :
    fileUri (.ofNames names) = fileUri (.ofNames names') := by
  have hread := parseChars_fileUri names
  rw [String.ofList_injective h, parseChars_fileUri names'] at hread
  exact (Except.ok.inj hread).symm

/-! ### Reports -/

/-- What the map says about a source. -/
structure SourceReport where
  /-- The source. -/
  file : Uri
  /-- The rows of its lines. -/
  rows : List MapRow
  /-- The number of lines that produced nothing and the number of all lines, if that is known. -/
  unused : Option (Nat × Nat)

/-- The lines of the map that make a report. -/
def SourceReport.lines (report : SourceReport) : List String :=
  CompiledUnit.sourceLabel report.file :: report.rows.map MapRow.text ++
    (match report.unused with
     | some (unused, total) => [s!"  {unused} of {total} lines produced no code"]
     | none => [])

namespace CompiledUnit

variable (u : CompiledUnit) (lineCount : Uri → Option Nat)

/-- The report on a source. -/
def reportOn (file : Uri) : SourceReport where
  file := file
  rows := (u.index.buckets file).map MapRow.ofBucket
  unused := (lineCount file).map fun total => (u.unusedCount file total, total)

/-- The reports on all sources. -/
def reports : List SourceReport :=
  u.reportOrder.map (u.reportOn lineCount)

theorem lines_reportOn (file : Uri) :
    (u.reportOn lineCount file).lines = u.mapSection lineCount file := by
  rw [SourceReport.lines, reportOn, mapSection, List.map_map]
  have htext : MapRow.text ∘ MapRow.ofBucket = mapRow := funext MapRow.text_ofBucket
  rw [htext]
  cases lineCount file <;> rfl

theorem renderMap_eq :
    u.renderMap lineCount =
      String.join (((u.reports lineCount).flatMap SourceReport.lines).map (· ++ "\n")) := by
  rw [renderMap, reports, List.flatMap_map]
  exact congrArg (fun lines => String.join ((u.reportOrder.flatMap lines).map (· ++ "\n")))
    (funext fun file => (u.lines_reportOn lineCount file).symm)

/-! ### Rows of a report -/

variable {u lineCount} {file : Uri} {row : MapRow}

theorem mem_rows_iff :
    row ∈ (u.reportOn lineCount file).rows ↔
      ∃ line, LineIndex.positions u.index.origins file line ≠ [] ∧
        row = .ofBucket (line, LineIndex.positions u.index.origins file line) := by
  rw [reportOn, List.mem_map, u.index_eq]
  constructor
  · rintro ⟨⟨line, ks⟩, hbucket, rfl⟩
    obtain ⟨rfl, hne⟩ := LineIndex.mem_buckets_build_iff.1 hbucket
    exact ⟨line, hne, rfl⟩
  · rintro ⟨line, hne, rfl⟩
    exact ⟨_, LineIndex.mem_buckets_build_iff.2 ⟨rfl, hne⟩, rfl⟩

/-- What a row shows are the listing lines that came from its source line. -/
theorem mem_numbers_iff {line number : Nat} :
    (∃ row ∈ (u.reportOn lineCount file).rows, row.line = line ∧ number ∈ row.numbers) ↔
      ∃ k origin, (u.lines[k]?.bind ParsedLine.origin?) = some origin ∧
        file = origin.file ∧ line = origin.line + 1 ∧ number = k + 1 := by
  have horigin (k : Nat) : u.lines[k]?.bind ParsedLine.origin? = u.index.origins[k]?.join := by
    rw [← LineIndex.sourceLine?_build, u.index_eq]
    rfl
  constructor
  · rintro ⟨row, hrow, rfl, hnumber⟩
    obtain ⟨line, -, rfl⟩ := mem_rows_iff.1 hrow
    obtain ⟨k, hk, rfl⟩ := List.mem_map.1 hnumber
    obtain ⟨origin, hat, rfl, rfl⟩ := LineIndex.mem_positions_iff.1 hk
    exact ⟨k, origin, (horigin k).trans hat, rfl, rfl, rfl⟩
  · rintro ⟨k, origin, hat, rfl, rfl, rfl⟩
    have hk := LineIndex.mem_positions_iff.2 ⟨origin, (horigin k).symm.trans hat, rfl, rfl⟩
    exact ⟨_, mem_rows_iff.2 ⟨origin.line, List.ne_nil_of_mem hk, rfl⟩, rfl,
      List.mem_map.2 ⟨k, hk, rfl⟩⟩

theorem pairwise_rows :
    (u.reportOn lineCount file).rows.Pairwise fun a b => a.line < b.line := by
  rw [reportOn, List.pairwise_map, u.index_eq]
  refine ((LineIndex.indexes_build u.lines).ascending file).imp ?_
  intro a b hlt
  exact Nat.succ_lt_succ hlt

theorem pairwise_numbers (h : row ∈ (u.reportOn lineCount file).rows) :
    row.numbers.Pairwise (· < ·) := by
  obtain ⟨line, -, rfl⟩ := mem_rows_iff.1 h
  rw [MapRow.ofBucket, List.pairwise_map]
  refine (LineIndex.pairwise_positions _ _ _).imp ?_
  intro a b hlt
  exact Nat.succ_lt_succ hlt

/-- The unused lines of a source and the lines with a row are all of its lines. -/
theorem unusedCount_add (total : Nat) :
    u.unusedCount file total +
      (u.reportOn lineCount file).rows.countP (fun row => row.line ≤ total) = total := by
  have hascending := (LineIndex.indexes_build u.lines).ascending file
  rw [unusedCount, LineIndex.containsFile, LineIndex.unusedLines, reportOn, List.countP_map,
    LineIndex.buckets, u.index_eq]
  cases hlookup : (LineIndex.build u.lines).documents.lookup file with
  | none => simp
  | some buckets =>
    rw [hlookup, Option.getD_some] at hascending
    exact hascending.length_unused_add total

/-! ### Sources -/

theorem mem_reportOrder_iff : file ∈ u.reportOrder ↔ file ∈ u.referenced := by
  rw [reportOrder, List.mem_cons, Uri.sort, List.mem_mergeSort, List.mem_filter, bne_iff_ne]
  constructor
  · rintro (rfl | ⟨hfile, -⟩)
    · exact (u.mem_referenced _).2 (.inl rfl)
    · exact hfile
  · intro hfile
    by_cases hprimary : file = u.primary
    · exact .inl hprimary
    · exact .inr ⟨hfile, hprimary⟩

theorem nodup_reportOrder : u.reportOrder.Nodup := by
  have hfiles : u.index.files.Nodup := by
    rw [u.index_eq]
    exact (LineIndex.indexes_build u.lines).nodup
  rw [reportOrder, List.nodup_cons, Uri.sort, List.mem_mergeSort,
    (List.mergeSort_perm _ _).nodup_iff]
  exact ⟨by simp, (u.nodup_referenced hfiles).filter _⟩

theorem mem_referenced_of_origin {k : Nat} {origin : SourceLine}
    (h : (u.lines[k]?.bind ParsedLine.origin?) = some origin) : origin.file ∈ u.referenced := by
  rw [← LineIndex.sourceLine?_build] at h
  refine (u.mem_referenced _).2 (.inr ?_)
  rw [u.index_eq]
  exact LineIndex.mem_files_build.2 ⟨k, origin, h, rfl⟩

theorem exists_names_of_mem_referenced (h : file ∈ u.referenced) (hne : file ≠ u.primary) :
    ∃ names, file = fileUri (.ofNames names) := by
  have hfile := ((u.mem_referenced file).1 h).resolve_left hne
  rw [u.index_eq, LineIndex.mem_files_build] at hfile
  obtain ⟨k, origin, hk, rfl⟩ := hfile
  rw [LineIndex.sourceLine?_build, Option.bind_eq_some_iff] at hk
  obtain ⟨parsed, -, horigin⟩ := hk
  obtain ⟨loc, -, -, habsolute, huri, -⟩ := ParsedLine.origin?_eq_some_iff.1 horigin
  rw [sourceUri_of_isAbsolute habsolute, Except.ok.injEq] at huri
  obtain ⟨names, hnames⟩ := Path.exists_normalize_eq habsolute
  exact ⟨names, by rw [← huri, hnames]⟩

theorem pairwise_others :
    (Uri.sort (u.referenced.filter (· != u.primary))).Pairwise fun f g => f.render < g.render := by
  have hnodup := (List.nodup_cons.1 u.nodup_reportOrder).2
  refine ((Uri.pairwise_sort _).and hnodup).imp_of_mem ?_
  intro f g hf hg hfg
  simp only [Uri.sort, List.mem_mergeSort, List.mem_filter, bne_iff_ne] at hf hg
  refine Std.lt_of_le_of_ne hfg.1 fun hrender => hfg.2 ?_
  obtain ⟨names, rfl⟩ := exists_names_of_mem_referenced hf.1 hf.2
  obtain ⟨names', rfl⟩ := exists_names_of_mem_referenced hg.1 hg.2
  exact fileUri_eq_of_render_eq hrender

/-! ### The map -/

theorem origin_of_mem_numbers {number : Nat} (hrow : row ∈ (u.reportOn lineCount file).rows)
    (hnumber : number ∈ row.numbers) :
    ∃ k origin, (u.lines[k]?.bind ParsedLine.origin?) = some origin ∧
      file = origin.file ∧ row.line = origin.line + 1 ∧ number = k + 1 :=
  mem_numbers_iff.1 ⟨row, hrow, rfl, hnumber⟩

/-- A number is on one row at most. -/
theorem eq_of_mem_numbers {file' : Uri} {row' : MapRow} {number : Nat}
    (hrow : row ∈ (u.reportOn lineCount file).rows) (hnumber : number ∈ row.numbers)
    (hrow' : row' ∈ (u.reportOn lineCount file').rows) (hnumber' : number ∈ row'.numbers) :
    file = file' ∧ row.line = row'.line := by
  obtain ⟨k, origin, hat, rfl, hline, hk⟩ := origin_of_mem_numbers hrow hnumber
  obtain ⟨k', origin', hat', rfl, hline', hk'⟩ := origin_of_mem_numbers hrow' hnumber'
  obtain rfl : k = k' := by omega
  obtain rfl : origin = origin' := Option.some.inj (hat.symm.trans hat')
  exact ⟨rfl, hline.trans hline'.symm⟩

theorem nodup_numbers :
    ((u.reports lineCount).flatMap fun report => report.rows.flatMap MapRow.numbers).Nodup := by
  rw [reports, List.flatMap_map, List.nodup_flatMap]
  constructor
  · intro file _
    refine List.nodup_flatMap.2 ⟨fun row hrow => (pairwise_numbers hrow).imp Nat.ne_of_lt, ?_⟩
    refine pairwise_rows.imp_of_mem fun hrow hrow' hlt => ?_
    refine List.disjoint_left.2 fun number hnumber hnumber' => ?_
    exact Nat.ne_of_lt hlt (eq_of_mem_numbers hrow hnumber hrow' hnumber').2
  · refine nodup_reportOrder.imp fun hne => List.disjoint_left.2 fun number hnumber hnumber' => ?_
    obtain ⟨row, hrow, hnumber⟩ := List.mem_flatMap.1 hnumber
    obtain ⟨row', hrow', hnumber'⟩ := List.mem_flatMap.1 hnumber'
    exact hne (eq_of_mem_numbers hrow hnumber hrow' hnumber').1

/-- Reports on the sources of a unit that show each listing line once and in its place. -/
structure Partitions (u : CompiledUnit) (lineCount : Uri → Option Nat)
    (reports : List SourceReport) : Prop where
  /-- A row shows its line and its numbers, and no other number. -/
  numbersIn_text : ∀ report ∈ reports, ∀ row ∈ report.rows,
    numbersIn row.text.toList = row.line :: row.numbers
  /-- The primary source comes first, and the others follow, each once, in the order of their
  written forms. -/
  files : ∃ others, reports.map SourceReport.file = u.primary :: others ∧
    (∀ file, file ∈ others ↔ file ∈ u.referenced ∧ file ≠ u.primary) ∧
    others.Pairwise fun f g => f.render < g.render
  /-- A listing line that came from a source line is on the row of that, and on no other; no other
  number is on a row. -/
  mem_iff : ∀ file line number,
    (∃ report ∈ reports, report.file = file ∧
      ∃ row ∈ report.rows, row.line = line ∧ number ∈ row.numbers) ↔
    ∃ k origin, (u.lines[k]?.bind ParsedLine.origin?) = some origin ∧
      file = origin.file ∧ line = origin.line + 1 ∧ number = k + 1
  /-- No number is shown twice. -/
  nodup : (reports.flatMap fun report => report.rows.flatMap MapRow.numbers).Nodup
  pairwise_rows : ∀ report ∈ reports, report.rows.Pairwise fun a b => a.line < b.line
  pairwise_numbers : ∀ report ∈ reports, ∀ row ∈ report.rows, row.numbers.Pairwise (· < ·)
  /-- The unused lines of a source and the rows up to its length make up all of its lines. -/
  unused : ∀ report ∈ reports, ∀ total, lineCount report.file = some total →
    ∃ unused, report.unused = some (unused, total) ∧
      unused + report.rows.countP (fun row => row.line ≤ total) = total
  /-- Nothing is said about the unused lines of a source of unknown length. -/
  unused_none : ∀ report ∈ reports, lineCount report.file = none → report.unused = none

/-- **The map of a unit is a partition of its listing**, for any lengths of its sources. -/
theorem map_partitions (u : CompiledUnit) (lineCount : Uri → Option Nat) :
    u.renderMap lineCount =
        String.join (((u.reports lineCount).flatMap SourceReport.lines).map (· ++ "\n")) ∧
      u.Partitions lineCount (u.reports lineCount) := by
  have hreport {p : SourceReport → Prop} (h : ∀ file, p (u.reportOn lineCount file)) :
      ∀ report ∈ u.reports lineCount, p report := by
    intro report hreport
    obtain ⟨file, -, rfl⟩ := List.mem_map.1 hreport
    exact h file
  refine ⟨u.renderMap_eq lineCount, ?_⟩
  refine ⟨fun _ _ row _ => row.numbersIn_text, ?files, ?mem, nodup_numbers,
    hreport fun _ => pairwise_rows, hreport fun _ _ => pairwise_numbers, hreport ?unused,
    hreport ?none⟩
  case files =>
    refine ⟨Uri.sort (u.referenced.filter (· != u.primary)), ?_, fun file => ?_, pairwise_others⟩
    · rw [reports, List.map_map]
      exact List.map_id _
    · rw [Uri.sort, List.mem_mergeSort, List.mem_filter, bne_iff_ne]
  case mem =>
    intro file line number
    constructor
    · rintro ⟨report, hreport, rfl, hrow⟩
      obtain ⟨file, -, rfl⟩ := List.mem_map.1 hreport
      exact mem_numbers_iff.1 hrow
    · intro hnumber
      refine ⟨u.reportOn lineCount file, List.mem_map_of_mem (mem_reportOrder_iff.2 ?_), rfl,
        mem_numbers_iff.2 hnumber⟩
      obtain ⟨k, origin, hat, rfl, -⟩ := hnumber
      exact mem_referenced_of_origin hat
  case unused =>
    intro file total htotal
    exact ⟨_, by rw [reportOn, show lineCount file = some total from htotal]; rfl,
      unusedCount_add total⟩
  case none =>
    intro file hnone
    rw [reportOn, show lineCount file = none from hnone]
    rfl

end CompiledUnit

end AsmExplorer
