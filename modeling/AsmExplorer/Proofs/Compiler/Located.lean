import AsmExplorer.CommandLine.Run
import AsmExplorer.Proofs.Compiler.Endings
import AsmExplorer.Proofs.Listing.Hiding
import AsmExplorer.Proofs.Path.Joining
import AsmExplorer.Proofs.Uri.Views

/-!
# Every located line is filed

A compiler names the files of its listing by absolute paths, or by paths seen from the directory of
the source.  The lines of the compiled unit are filed under the documents of these files:

* `CompilerKind.hasLine_of_mem_parse` : no parser gives a location without a line.
* `SourceLocation.fileFrom` : the file that a location names, seen from a directory.
* `ParsedLine.origin?_anchor_eq_some_iff` : a line is filed exactly if its location names a file at
  all, and then under the document of that file.
* `CompiledUnit.Locates` : what a unit says about the lines of the listing that it was built from.

`located_lines_filed` puts these together, for every source with a directory and every listing.
-/

namespace AsmExplorer

/-! ### Locations in listings -/

/-- A location has a line, if it is there. -/
def HasLine (place : Option SourceLocation) : Prop :=
  ∀ loc, place = some loc → loc.line ≠ 0

theorem hasLine_none : HasLine none := by
  intro loc h
  cases h

namespace Gas

variable {s : Survey} {place : Option SourceLocation}

theorem hasLine_placeOf (file number : List Char) (column : Option (List Char)) :
    HasLine (placeOf s file number column) := by
  intro loc h
  simp only [placeOf, Option.bind_eq_bind, Option.bind_eq_some_iff, Option.filter_eq_some_iff] at h
  obtain ⟨path, -, line, ⟨-, hline⟩, hloc⟩ := h
  rw [← Option.some.inj hloc]
  simpa using hline

theorem hasLine_placeAfter (h : HasLine place) (line : List Char) :
    HasLine (placeAfter s place line) := by
  unfold placeAfter
  split
  · exact hasLine_placeOf _ _ _
  · split
    · exact hasLine_none
    · exact h

theorem hasLine_of_mem_entriesFrom (h : HasLine place) {inDebug : Bool} {lines : List (List Char)}
    {e : Entry} (he : e ∈ entriesFrom s place inDebug lines) : HasLine e.place := by
  induction lines generalizing place inDebug with
  | nil => cases he
  | cons line lines ih =>
    have hafter : HasLine (placeAfter s place line) := hasLine_placeAfter h line
    rw [entriesFrom] at he
    rcases List.mem_cons.1 he with rfl | he
    · exact hafter
    · exact ih hafter he

theorem hasLine_of_mem_parse {text : List Char} {filters : FilterOptions} {line : ParsedLine}
    (h : line ∈ parse text filters) : HasLine line.source := by
  obtain ⟨e, he, rfl⟩ := List.mem_map.1 h
  have hentry := (visible_sublist filters _ _).subset he
  have hplace : HasLine e.place := hasLine_of_mem_entriesFrom hasLine_none hentry
  intro loc hloc
  rw [Entry.shown, Entry.source] at hloc
  split at hloc
  · exact hplace loc hloc
  · cases hloc

end Gas

namespace Masm

variable {place : Place}

theorem line_after_ne_zero (h : place.line ≠ some 0) (line : List Char) :
    (place.after line).line ≠ some 0 := by
  have hmarker : (place.afterMarker line).line ≠ some 0 := by
    unfold Place.afterMarker
    split
    · exact (Option.some_ne_none _).symm
    · split
      · simp [Option.filter_eq_some_iff]
      · exact h
  rw [Place.after]
  split
  · exact (Option.some_ne_none _).symm
  · exact hmarker

theorem hasLine_location? (h : place.line ≠ some 0) : HasLine place.location? := by
  intro loc hloc
  simp only [Place.location?, Option.bind_eq_bind, Option.bind_eq_some_iff] at hloc
  obtain ⟨file, -, line, hline, hloc⟩ := hloc
  rw [← Option.some.inj hloc]
  exact fun hzero => h (hline.trans (congrArg some hzero))

theorem hasLine_of_mem_entriesFrom (h : place.line ≠ some 0) {lines : List (List Char)} {e : Entry}
    (he : e ∈ entriesFrom place lines) : HasLine e.source := by
  induction lines generalizing place with
  | nil => cases he
  | cons line lines ih =>
    have hafter : (place.after line).line ≠ some 0 := line_after_ne_zero h line
    rw [entriesFrom] at he
    rcases List.mem_cons.1 he with rfl | he
    · dsimp only
      split
      · exact hasLine_location? hafter
      · exact hasLine_none
    · exact ih hafter he

theorem hasLine_of_mem_parse {text : List Char} {filters : FilterOptions} {line : ParsedLine}
    (h : line ∈ parse text filters) : HasLine line.source := by
  obtain ⟨e, he, rfl⟩ := List.mem_map.1 h
  have hstart : ({} : Place).line ≠ some 0 := (Option.some_ne_none _).symm
  exact hasLine_of_mem_entriesFrom hstart (List.mem_of_mem_filter he)

end Masm

theorem CompilerKind.hasLine_of_mem_parse {kind : CompilerKind} {text : List Char}
    {filters : FilterOptions} {line : ParsedLine} (h : line ∈ kind.parse text filters) :
    HasLine line.source := by
  cases kind with
  | gcc | clangCl => exact Gas.hasLine_of_mem_parse h
  | msvc => exact Masm.hasLine_of_mem_parse h

/-! ### Lines seen from a directory -/

variable {file directory : Path}

namespace SourceLocation

/-- The file that a location names, seen from a directory. -/
def fileFrom (directory : Path) (loc : SourceLocation) : Path :=
  if loc.file.isAbsolute then loc.file else directory.join loc.file

theorem isAbsolute_fileFrom (h : directory.isAbsolute = true) (loc : SourceLocation) :
    (loc.fileFrom directory).isAbsolute = true := by
  unfold fileFrom
  split
  · assumption
  · exact Path.isAbsolute_join h

end SourceLocation

namespace ParsedLine

variable {line : ParsedLine}

/-- Whether a line has a location that names a file. -/
def isLocated (line : ParsedLine) : Bool :=
  line.source.any fun loc => loc.file.bytes != []

theorem isLocated_iff :
    line.isLocated = true ↔ ∃ loc, line.source = some loc ∧ loc.file.bytes ≠ [] := by
  simp [isLocated, Option.any_eq_true]

theorem source_anchor (directory : Path) (line : ParsedLine) :
    (line.anchor directory).source = line.source.map fun loc =>
      if loc.file.bytes = [] then loc else { loc with file := loc.fileFrom directory } := by
  refine congrArg (line.source.map ·) (funext fun loc => ?_)
  by_cases habsolute : loc.file.isAbsolute = true
  · simp [SourceLocation.fileFrom, habsolute]
  · simp [SourceLocation.fileFrom, habsolute]

/-- **A line is filed if its location names a file**, and then under the document of that file. -/
theorem origin?_anchor_eq_some_iff {origin : SourceLine} :
    (line.anchor directory).origin? = some origin ↔
      ∃ loc, line.source = some loc ∧ loc.file.bytes ≠ [] ∧
        sourceUri (loc.fileFrom directory) = .ok origin.file ∧
        loc.line.toNat = origin.line + 1 ∧ origin.column = loc.column := by
  rw [origin?_eq_some_iff, source_anchor]
  constructor
  · rintro ⟨_, hsource, hfilled, -, hfile, hline⟩
    obtain ⟨loc, hloc, rfl⟩ := Option.map_eq_some_iff.1 hsource
    by_cases hempty : loc.file.bytes = []
    · rw [if_pos hempty] at hfilled
      exact absurd hempty hfilled
    · rw [if_neg hempty] at hfile hline
      exact ⟨loc, hloc, hempty, hfile, hline⟩
  · rintro ⟨loc, hloc, hfilled, hfile, hline⟩
    have habsolute : (loc.fileFrom directory).isAbsolute = true := isAbsolute_of_sourceUri hfile
    refine ⟨{ loc with file := loc.fileFrom directory }, ?_, Path.bytes_ne_of_isAbsolute habsolute,
      habsolute, hfile, hline⟩
    rw [hloc, Option.map_some, if_neg hfilled]

theorem exists_origin?_anchor (hdirectory : directory.isAbsolute = true)
    (hlines : HasLine line.source) {loc : SourceLocation} (hloc : line.source = some loc)
    (hfilled : loc.file.bytes ≠ []) : ∃ origin, (line.anchor directory).origin? = some origin ∧
      sourceUri (loc.fileFrom directory) = .ok origin.file ∧
      loc.line.toNat = origin.line + 1 ∧ origin.column = loc.column := by
  have huri := sourceUri_of_isAbsolute (loc.isAbsolute_fileFrom hdirectory)
  have hpos : loc.line.toNat ≠ 0 := fun hzero => hlines loc hloc (UInt32.toNat_inj.1 hzero)
  have hline : loc.line.toNat = loc.line.toNat - 1 + 1 := by omega
  exact ⟨⟨_, _, _⟩, origin?_anchor_eq_some_iff.2 ⟨loc, hloc, hfilled, huri, hline, rfl⟩, huri,
    hline, rfl⟩

theorem isSome_origin?_anchor (hdirectory : directory.isAbsolute = true)
    (hlines : HasLine line.source) :
    (line.anchor directory).origin?.isSome = line.isLocated := by
  rw [Bool.eq_iff_iff, isLocated_iff, Option.isSome_iff_exists]
  constructor
  · rintro ⟨origin, horigin⟩
    obtain ⟨loc, hloc, hfilled, -⟩ := origin?_anchor_eq_some_iff.1 horigin
    exact ⟨loc, hloc, hfilled⟩
  · rintro ⟨loc, hloc, hfilled⟩
    obtain ⟨origin, horigin, -⟩ := exists_origin?_anchor hdirectory hlines hloc hfilled
    exact ⟨origin, horigin⟩

end ParsedLine

/-! ### Units -/

namespace CompiledUnit

/-- The unit of the source `file` has the lines `parsed` of a listing, seen from `directory`, and
files each of them under the document of the file that its location names. -/
structure Locates (unit : CompiledUnit) (file directory : Path) (parsed : List ParsedLine) :
    Prop where
  lines_eq : unit.lines = parsed.map (ParsedLine.anchor directory)
  /-- A line whose location names a file is in the index, in both directions. -/
  filed : ∀ (k : Nat) line loc, parsed[k]? = some line → line.source = some loc →
    loc.file.bytes ≠ [] → ∃ origin ks, unit.index.sourceLine? k = some origin ∧
      unit.index.assemblyLines? origin.file origin.line = some ks ∧ k ∈ ks ∧
      sourceUri (loc.fileFrom directory) = .ok origin.file ∧
      loc.line.toNat = origin.line + 1 ∧ origin.column = loc.column
  /-- Nothing else is in the index. -/
  located : ∀ (k : Nat) origin, unit.index.sourceLine? k = some origin →
    ∃ line, parsed[k]? = some line ∧ line.isLocated = true
  mappedCount_eq : unit.index.mappedCount = parsed.countP ParsedLine.isLocated
  mem_referenced_iff : ∀ document, document ∈ unit.referenced ↔ document = unit.primary ∨
    ∃ line loc, line ∈ parsed ∧ line.source = some loc ∧ loc.file.bytes ≠ [] ∧
      sourceUri (loc.fileFrom directory) = .ok document
  nodup_referenced : unit.referenced.Nodup
  /-- What is located in the file itself, or in its name, is filed under the compiled source. -/
  own : ∀ (k : Nat) line loc, parsed[k]? = some line → line.source = some loc →
    loc.file = file ∨ file.fileName?.map Path.mk = some loc.file →
    ∃ origin, unit.index.sourceLine? k = some origin ∧ origin.file = unit.primary

end CompiledUnit

/-- A location in a file or in its name means the file, however the file is spelled. -/
theorem sourceUri_fileFrom_eq (hfile : file.isAbsolute = true)
    (hparent : file.parent? = some directory) {loc : SourceLocation}
    (hown : loc.file = file ∨ file.fileName?.map Path.mk = some loc.file) :
    loc.file.bytes ≠ [] ∧ sourceUri (loc.fileFrom directory) = sourceUri file := by
  rcases hown with rfl | hown
  · exact ⟨Path.bytes_ne_of_isAbsolute hfile, by rw [SourceLocation.fileFrom, if_pos hfile]⟩
  · obtain ⟨name, hname, hloc⟩ := Option.map_eq_some_iff.1 hown
    obtain ⟨entry, rfl, -⟩ := Path.exists_entryName_of_fileName? hfile hname
    have hrelative : loc.file.isAbsolute = false := hloc ▸ (Path.steps_move (.inr ⟨entry, rfl⟩)).1
    have hnormal : (loc.fileFrom directory).normalize = file.normalize := by
      rw [SourceLocation.fileFrom, if_neg (by simp [hrelative]), ← hloc]
      exact Path.normalize_congr (Path.components_join_fileName hfile hparent hname)
    constructor
    · intro hempty
      rw [← hloc] at hempty
      exact entry.ne_nil (by simpa [Path.ofChars] using hempty)
    · rw [sourceUri_of_isAbsolute hfile, ← hnormal]
      exact sourceUri_of_isAbsolute
        (loc.isAbsolute_fileFrom (Path.exists_components_of_parent? hfile hparent).1)

namespace LineIndex

variable {parsed : List ParsedLine}

theorem sourceLine?_build_anchor {k : Nat} {origin : SourceLine} :
    (build (parsed.map (ParsedLine.anchor directory))).sourceLine? k = some origin ↔
      ∃ line, parsed[k]? = some line ∧ (line.anchor directory).origin? = some origin := by
  rw [sourceLine?_build, List.getElem?_map, Option.bind_map, Option.bind_eq_some_iff]
  rfl

/-- As many lines are mapped as have a location that names a file. -/
theorem mappedCount_build_anchor (hdirectory : directory.isAbsolute = true)
    (hlines : ∀ line ∈ parsed, HasLine line.source) :
    (build (parsed.map (ParsedLine.anchor directory))).mappedCount =
      parsed.countP ParsedLine.isLocated := by
  rw [mappedCount, origins_build, List.map_map, List.countP_map]
  refine List.countP_congr fun line hline => ?_
  rw [← ParsedLine.isSome_origin?_anchor hdirectory (hlines line hline)]
  rfl

/-- The documents are those of the files that locations name. -/
theorem mem_files_build_anchor (hdirectory : directory.isAbsolute = true)
    (hlines : ∀ line ∈ parsed, HasLine line.source) {document : Uri} :
    document ∈ (build (parsed.map (ParsedLine.anchor directory))).files ↔
      ∃ line loc, line ∈ parsed ∧ line.source = some loc ∧ loc.file.bytes ≠ [] ∧
        sourceUri (loc.fileFrom directory) = .ok document := by
  rw [mem_files_build]
  simp only [sourceLine?_build_anchor]
  constructor
  · rintro ⟨k, origin, ⟨line, hk, horigin⟩, rfl⟩
    obtain ⟨loc, hloc, hfilled, huri, -⟩ := ParsedLine.origin?_anchor_eq_some_iff.1 horigin
    exact ⟨line, loc, List.mem_of_getElem? hk, hloc, hfilled, huri⟩
  · rintro ⟨line, loc, hline, hloc, hfilled, huri⟩
    obtain ⟨k, hk⟩ := List.getElem?_of_mem hline
    obtain ⟨origin, horigin, huri', -⟩ :=
      ParsedLine.exists_origin?_anchor hdirectory (hlines line hline) hloc hfilled
    rw [huri, Except.ok.injEq] at huri'
    exact ⟨k, origin, ⟨line, hk, horigin⟩, huri'.symm⟩

end LineIndex

/-- A unit made from lines of which none lacks its line locates them. -/
theorem CompiledUnit.locates_ofLines {parsed : List ParsedLine} {primary : Uri}
    (hfile : file.isAbsolute = true) (hparent : file.parent? = some directory)
    (hprimary : sourceUri file = .ok primary) (assembly : Uri)
    (hlines : ∀ line ∈ parsed, HasLine line.source) :
    (ofLines primary assembly (parsed.map (ParsedLine.anchor directory))).Locates file directory
      parsed := by
  have hdirectory := (Path.exists_components_of_parent? hfile hparent).1
  have hfiled {k : Nat} {line : ParsedLine} {loc : SourceLocation} (hk : parsed[k]? = some line)
      (hloc : line.source = some loc) (hfilled : loc.file.bytes ≠ []) :
      ∃ origin, (LineIndex.build (parsed.map (ParsedLine.anchor directory))).sourceLine? k =
          some origin ∧
        sourceUri (loc.fileFrom directory) = .ok origin.file ∧
        loc.line.toNat = origin.line + 1 ∧ origin.column = loc.column := by
    obtain ⟨origin, horigin, hplace⟩ := ParsedLine.exists_origin?_anchor hdirectory
      (hlines line (List.mem_of_getElem? hk)) hloc hfilled
    exact ⟨origin, LineIndex.sourceLine?_build_anchor.2 ⟨line, hk, horigin⟩, hplace⟩
  refine ⟨rfl, ?filed, ?located, LineIndex.mappedCount_build_anchor hdirectory hlines,
    ?referenced, nodup_referenced _ (LineIndex.indexes_build _).nodup, ?own⟩
  case filed =>
    intro k line loc hk hloc hfilled
    obtain ⟨origin, horigin, hplace⟩ := hfiled hk hloc hfilled
    obtain ⟨ks, hks, hmem⟩ :=
      LineIndex.mem_assemblyLines?_build.2 ⟨origin, horigin, rfl, rfl⟩
    exact ⟨origin, ks, horigin, hks, hmem, hplace⟩
  case located =>
    intro k origin horigin
    obtain ⟨line, hk, horigin⟩ := LineIndex.sourceLine?_build_anchor.1 horigin
    obtain ⟨loc, hloc, hfilled, -⟩ := ParsedLine.origin?_anchor_eq_some_iff.1 horigin
    exact ⟨line, hk, ParsedLine.isLocated_iff.2 ⟨loc, hloc, hfilled⟩⟩
  case referenced =>
    intro document
    rw [mem_referenced, ← LineIndex.mem_files_build_anchor hdirectory hlines]
    rfl
  case own =>
    intro k line loc hk hloc hown
    obtain ⟨hfilled, heq⟩ := sourceUri_fileFrom_eq hfile hparent hown
    obtain ⟨origin, horigin, huri, -⟩ := hfiled hk hloc hfilled
    rw [heq, hprimary, Except.ok.injEq] at huri
    exact ⟨origin, horigin, huri.symm⟩

/-! ### Compiling -/

theorem CompilerInfo.linesOf_eq (hparent : file.parent? = some directory) (info : CompilerInfo)
    (filters : FilterOptions) (text : List Char) :
    info.linesOf filters file text =
      (info.kind.parse text filters).map (ParsedLine.anchor directory) := by
  rw [linesOf, hparent]

/-- The lines that a compilation returns are those of a listing, read by the compiler that the
settings name. -/
theorem CompileManager.exists_linesOf_of_compile {m : CompileManager} {machine machine' : Machine}
    {lines : List ParsedLine} (h : m.compile machine file = (.ok lines, machine')) :
    ∃ info text, m.compiler? (m.settings file).compilerName = some info ∧
      lines = info.linesOf m.filters file text := by
  have hends := m.ends_compile machine file
  rw [h] at hends
  cases hends with
  | listed info text machine' hinfo => exact ⟨info, text, hinfo, rfl⟩

/-- What the program compiles is the unit of the lines that the manager returns. -/
theorem CommandLine.exists_of_compileUnit {machine machine' : Machine} {manager : CompileManager}
    {argument : Path} {primary : Uri} {unit : CompiledUnit}
    (hsource : resolveSource (FileTree.pathOf machine.cwd) argument = .ok (file, primary))
    (h : compileUnit machine manager argument = .ok (unit, machine')) :
    ∃ lines assembly, manager.compile machine file = (.ok lines, machine') ∧
      assemblyUri primary = .ok assembly ∧ unit = .ofLines primary assembly lines := by
  rw [compileUnit, hsource] at h
  cases hcompile : manager.compile machine file with
  | mk result after =>
    cases result with
    | error error => simp [hcompile, bind, Except.bind, Except.mapError] at h
    | ok lines =>
      cases hassembly : assemblyUri primary with
      | error fault => simp [hcompile, hassembly, bind, Except.bind, Except.mapError] at h
      | ok assembly =>
        simp only [hcompile, hassembly, bind, Except.bind, Except.mapError, pure, Except.pure,
          Except.ok.injEq, Prod.mk.injEq] at h
        obtain ⟨rfl, rfl⟩ := h
        exact ⟨lines, assembly, rfl, rfl, rfl⟩

/-- **Every located line of a compilation is mapped.**  For an absolute source path with a parent
directory, whatever `.` and `..` it contains, any compiler, listing and filters give a unit that
locates the lines of the listing; and a compilation, also one by the program, gives such a unit. -/
theorem located_lines_filed (hfile : file.isAbsolute = true)
    (hparent : file.parent? = some directory) :
    ∃ primary assembly : Uri, sourceUri file = .ok primary ∧ assemblyUri primary = .ok assembly ∧
      (∀ (info : CompilerInfo) (filters : FilterOptions) (text : List Char),
        (CompiledUnit.ofLines primary assembly (info.linesOf filters file text)).Locates file
          directory (info.kind.parse text filters)) ∧
      (∀ (manager : CompileManager) (machine machine' : Machine) (lines : List ParsedLine),
        manager.compile machine file = (.ok lines, machine') →
        ∃ info text, manager.compiler? (manager.settings file).compilerName = some info ∧
          lines = info.linesOf manager.filters file text ∧
          (CompiledUnit.ofLines primary assembly lines).Locates file directory
            (info.kind.parse text manager.filters)) ∧
      ∀ (manager : CompileManager) (machine machine' : Machine) (argument : Path)
        (unit : CompiledUnit),
        resolveSource (FileTree.pathOf machine.cwd) argument = .ok (file, primary) →
        CommandLine.compileUnit machine manager argument = .ok (unit, machine') →
        ∃ lines, manager.compile machine file = (.ok lines, machine') ∧
          unit = .ofLines primary assembly lines := by
  obtain ⟨names, hnames⟩ := Path.exists_normalize_eq hfile
  obtain ⟨assembly, hassembly, -⟩ := exists_assemblyUri_eq names
  have hprimary : sourceUri file = .ok (fileUri (.ofNames names)) := by
    rw [sourceUri_of_isAbsolute hfile, hnames]
  have hlocates (info : CompilerInfo) (filters : FilterOptions) (text : List Char) :
      (CompiledUnit.ofLines (fileUri (.ofNames names)) assembly
        (info.linesOf filters file text)).Locates file directory
          (info.kind.parse text filters) := by
    rw [info.linesOf_eq hparent]
    exact CompiledUnit.locates_ofLines hfile hparent hprimary assembly
      fun line hline => CompilerKind.hasLine_of_mem_parse hline
  refine ⟨_, assembly, hprimary, hassembly, hlocates, ?_, ?_⟩
  · intro manager machine machine' lines hcompile
    obtain ⟨info, text, hinfo, rfl⟩ := CompileManager.exists_linesOf_of_compile hcompile
    exact ⟨info, text, hinfo, rfl, hlocates info manager.filters text⟩
  · intro manager machine machine' argument unit hsource hunit
    obtain ⟨lines, assembly', hcompile, hassembly', rfl⟩ :=
      CommandLine.exists_of_compileUnit hsource hunit
    rw [hassembly, Except.ok.injEq] at hassembly'
    exact ⟨lines, hcompile, by rw [hassembly']⟩

/-- A line of `main.c` is filed under the source, although the path of that goes up. -/
theorem located_line_of_main :
    ∃ primary assembly : Uri, sourceUri (.ofText "/src/lib/../main.c") = .ok primary ∧
      ∀ info : CompilerInfo, info.kind = .gcc →
        ∃ origin, (CompiledUnit.ofLines primary assembly
            (info.linesOf {} (.ofText "/src/lib/../main.c")
              "\t.file 1 \"main.c\"\n\t.loc 1 3\nret\n".toList)).index.sourceLine? 0 =
          some origin ∧ origin.file = primary := by
  have hparent : (Path.ofText "/src/lib/../main.c").parent? = some (.ofText "/src/lib/..") := by
    decide
  obtain ⟨primary, assembly, hprimary, -, hlocates, -⟩ := located_lines_filed rfl hparent
  refine ⟨primary, assembly, hprimary, fun info hkind => ?_⟩
  have hline : (info.kind.parse "\t.file 1 \"main.c\"\n\t.loc 1 3\nret\n".toList {})[0]? =
      some { text := "ret", source := some ⟨.ofText "main.c", 3, none⟩ } := by
    rw [hkind]
    decide
  exact (hlocates info _ _).own 0 _ _ hline rfl (.inr (by decide))

end AsmExplorer
