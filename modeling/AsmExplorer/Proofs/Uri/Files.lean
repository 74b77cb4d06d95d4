import AsmExplorer.Compiler.Manager
import AsmExplorer.Proofs.Listing.Correspondence
import AsmExplorer.Proofs.Path.Normal
import AsmExplorer.Proofs.Text.Percent
import AsmExplorer.Proofs.Text.Utf8

/-!
# A file is its document

The path of the document of a file, read as bytes, is the path of the file in normal form
(`percentDecode_path_fileUri`).  So the document determines the normal form
(`sourceUri_eq_ok_iff`) and leads back to it (`exists_toPath?_fileUri`), and it does not matter
whether a file is reached by its document or by a path, in whatever spelling: the settings in force
and the place in a line index are those of the one file (`Uri.StandsFor`).
-/

namespace AsmExplorer

open AsmExplorer.Path (EntryName ofNames levels rooted)

variable {p q : Path} {names : List EntryName}

/-! ### The path of a document -/

theorem percentDecode_rooted {plain : Char → Bool} (h : plain '%' = false)
    (parts : List (List UInt8)) :
    Text.percentDecode (rooted '/' (parts.map (Text.percentEncode plain))) =
      rooted Path.slash parts := by
  induction parts with
  | nil => rfl
  | cons part parts ih =>
    rw [List.map_cons, Path.rooted_cons, Path.rooted_cons, List.cons_append, List.cons_append,
      Text.percentDecode_cons (by decide), Text.percentDecode_percentEncode h, ih]
    rfl

/-- The segments of the document of a path. -/
def Uri.encoded (names : List EntryName) : List (List Char) :=
  (levels names).map (Text.percentEncode segmentPlain)

theorem filePathChars_ofNames (names : List EntryName) :
    filePathChars (ofNames names) = rooted '/' (Uri.encoded names) := by
  rw [filePathChars, Path.components_ofNames, List.drop_succ_cons, List.drop_zero]
  cases names with
  | nil => rfl
  | cons name names =>
    rw [Uri.encoded, levels, rooted, List.flatMap_map, List.flatMap_map]
    exact List.flatMap_map ..

/-- The bytes that the path of a document stands for are those of the normal form. -/
theorem percentDecode_path_fileUri (hp : p.isAbsolute = true) :
    Text.percentDecode (fileUri p.normalize).path = p.normalize.bytes := by
  obtain ⟨names, hnames⟩ := Path.exists_normalize_eq hp
  rw [hnames, fileUri, filePathChars_ofNames, Uri.encoded, percentDecode_rooted (by decide),
    Path.bytes_ofNames]

/-! ### Naming -/

theorem sourceUri_of_isAbsolute (hp : p.isAbsolute = true) :
    sourceUri p = .ok (fileUri p.normalize) :=
  if_pos (Path.isAbsolute_normalize_iff.2 hp)

theorem sourceUri_eq_error_iff {fault : DocumentFault} :
    sourceUri p = .error fault ↔ p.isAbsolute = false ∧ fault = .relativePath p := by
  cases hp : p.isAbsolute with
  | true => simp [sourceUri_of_isAbsolute hp]
  | false =>
    have hnormal : p.normalize.isAbsolute ≠ true := by
      rw [Ne, Path.isAbsolute_normalize_iff, hp]
      exact Bool.false_ne_true
    have herror : sourceUri p = .error (.relativePath p) := if_neg hnormal
    rw [herror, Except.error.injEq, eq_comm]
    exact (and_iff_right rfl).symm

/-- **A document determines the normal form of its file.** -/
theorem sourceUri_eq_ok_iff (hp : p.isAbsolute = true) :
    sourceUri q = .ok (fileUri p.normalize) ↔ q.normalize = p.normalize := by
  constructor
  · intro h
    have hq : q.isAbsolute = true := isAbsolute_of_sourceUri h
    rw [sourceUri_of_isAbsolute hq, Except.ok.injEq] at h
    -- the paths of the two documents are one path, and it reads as either normal form
    have hbytes := congrArg (fun u => Text.percentDecode u.path) h
    rw [percentDecode_path_fileUri hq, percentDecode_path_fileUri hp] at hbytes
    exact congrArg Path.mk hbytes
  · intro h
    have hq : q.isAbsolute = true := by
      rw [← Path.isAbsolute_normalize_iff, h, Path.isAbsolute_normalize_iff, hp]
    rw [sourceUri_of_isAbsolute hq, h]

/-! ### Going back -/

theorem Path.normalize_of_components_eq {file : Path} (hp : p.isAbsolute = true)
    (h : file.components = p.normalize.components) : file.normalize = p.normalize := by
  obtain ⟨names, hnames⟩ := exists_normalize_eq hp
  rw [normalize_congr h, hnames, normalize_ofNames]

/-- The document of a file leads back to the normal form of its path, up to a slash at the end,
which a drive letter gets. -/
theorem exists_toPath?_fileUri (hp : p.isAbsolute = true) :
    ∃ file, (fileUri p.normalize).toPath? = some file ∧
      file.components = p.normalize.components := by
  have hbytes := percentDecode_path_fileUri hp
  obtain ⟨names, hnames⟩ := Path.exists_normalize_eq hp
  rw [hnames] at hbytes ⊢
  have hrooted : (fileUri (ofNames names)).path.head? = some '/' := by
    obtain ⟨part, parts, hcons⟩ := List.exists_cons_of_ne_nil (Path.levels_ne_nil names)
    rw [fileUri, filePathChars_ofNames, Uri.encoded, hcons]
    rfl
  -- the slash after a drive letter makes no component
  have hcomponents (onDrive : Bool) :
      (Path.mk (if onDrive then (ofNames names).bytes ++ [Path.slash]
        else (ofNames names).bytes)).components = (ofNames names).components := by
    cases onDrive with
    | true => exact Path.components_ofNames_slash names
    | false => rfl
  unfold Uri.toPath?
  rw [if_pos ⟨hrooted, rfl⟩, hbytes]
  exact ⟨_, rfl, hcomponents _⟩

/-! ### Settings -/

namespace CompileInfoDatabase

theorem lookup_put (key wanted : Path) (info : CompilationInfo)
    (entries : List (Path × CompilationInfo)) :
    (put key info entries).lookup wanted =
      if wanted = key then some info else entries.lookup wanted := by
  induction entries with
  | nil =>
    by_cases hwanted : wanted = key
    · simp [put, hwanted]
    · simp [put, List.lookup_cons, hwanted, beq_false_of_ne hwanted]
  | cons entry entries ih =>
    obtain ⟨k, v⟩ := entry
    rw [put]
    by_cases hk : k = key
    · rw [if_pos hk, List.lookup_cons, List.lookup_cons, hk]
      by_cases hwanted : wanted = key
      · simp [hwanted]
      · rw [if_neg hwanted, beq_false_of_ne hwanted]
    · rw [if_neg hk, List.lookup_cons, List.lookup_cons, ih]
      by_cases hwanted : wanted = k
      · simp [hwanted, hk]
      · rw [beq_false_of_ne hwanted]

theorem getOrDefault_congr (db : CompileInfoDatabase) (h : p.normalize = q.normalize) :
    db.getOrDefault p = db.getOrDefault q := by
  rw [getOrDefault, getOrDefault, get?, get?, h]

/-- Settings are those of the file they were stored for, and of no other. -/
theorem getOrDefault_set (db : CompileInfoDatabase) (p q : Path) (info : CompilationInfo) :
    (db.set q info).1.getOrDefault p =
      if q.normalize = p.normalize then (info, true) else db.getOrDefault p := by
  rw [getOrDefault, getOrDefault, set, get?, lookup_put]
  by_cases hq : q.normalize = p.normalize
  · rw [if_pos hq, if_pos hq.symm]
  · rw [if_neg hq, if_neg (Ne.symm hq)]
    rfl

end CompileInfoDatabase

/-! ### One file, one document -/

/-- The document `u` stands for the file of the path `p`; where it leads to is `file`. -/
structure Uri.StandsFor (u : Uri) (p file : Path) : Prop where
  /-- The document leads back to the normal form. -/
  toPath?_eq : u.toPath? = some file
  components_eq : file.components = p.normalize.components
  sourceUri_eq : sourceUri file = .ok u
  /-- A request for the document is a request for the file, under the settings of the path. -/
  compileSource_eq : ∀ (m : CompileManager) (machine : Machine),
    m.compileSource machine u = m.compile machine file
  getOrDefault_eq : ∀ db : CompileInfoDatabase, db.getOrDefault file = db.getOrDefault p
  /-- Settings stored for a path are found by its document. -/
  getOrDefault_set_of_eq : ∀ (db : CompileInfoDatabase) (q : Path) (info : CompilationInfo),
    sourceUri q = .ok u → (db.set q info).1.getOrDefault file = (info, true)
  /-- Settings stored for other paths are not. -/
  getOrDefault_set_of_ne : ∀ (db : CompileInfoDatabase) (q : Path) (info : CompilationInfo),
    sourceUri q ≠ .ok u → (db.set q info).1.getOrDefault file = db.getOrDefault file
  /-- A listing line is filed under the document exactly if it names the file. -/
  sourceLine?_eq : ∀ (lines : List ParsedLine) (k : Nat) (origin : SourceLine),
    (LineIndex.build lines).sourceLine? k = some origin →
      ∃ loc, lines[k]?.bind ParsedLine.source = some loc ∧
        (origin.file = u ↔ loc.file.normalize = p.normalize)

theorem CompileManager.compileSource_eq {u : Uri} {file : Path} (hfile : u.toPath? = some file)
    (m : CompileManager) (machine : Machine) :
    m.compileSource machine u = m.compile machine file := by
  rw [compileSource, hfile]

/-- A listing line that is filed somewhere is filed under the document of the path it names. -/
theorem LineIndex.exists_sourceUri_of_sourceLine? {lines : List ParsedLine} {k : Nat}
    {origin : SourceLine} (h : (build lines).sourceLine? k = some origin) :
    ∃ loc, lines[k]?.bind ParsedLine.source = some loc ∧ sourceUri loc.file = .ok origin.file := by
  rw [sourceLine?, origins_build, List.getElem?_map, Option.join_eq_some_iff,
    Option.map_eq_some_iff] at h
  obtain ⟨line, hline, horigin⟩ := h
  obtain ⟨loc, hsource, -, -, hfile, -⟩ := ParsedLine.origin?_eq_some_iff.1 horigin
  exact ⟨loc, by rw [hline, Option.bind_some, hsource], hfile⟩

theorem exists_standsFor (hp : p.isAbsolute = true) :
    ∃ file, (fileUri p.normalize).StandsFor p file := by
  obtain ⟨file, hfile, hcomponents⟩ := exists_toPath?_fileUri hp
  have hnormal : file.normalize = p.normalize := Path.normalize_of_components_eq hp hcomponents
  refine ⟨file, hfile, hcomponents, (sourceUri_eq_ok_iff hp).2 hnormal,
    CompileManager.compileSource_eq hfile,
    fun db => db.getOrDefault_congr hnormal, fun db q info hq => ?_, fun db q info hq => ?_,
    fun lines k origin h => ?_⟩
  · rw [sourceUri_eq_ok_iff hp] at hq
    rw [db.getOrDefault_set, hnormal, if_pos hq]
  · rw [Ne, sourceUri_eq_ok_iff hp] at hq
    rw [db.getOrDefault_set, hnormal, if_neg hq]
  · obtain ⟨loc, hloc, horigin⟩ := LineIndex.exists_sourceUri_of_sourceLine? h
    refine ⟨loc, hloc, ?_⟩
    rw [← sourceUri_eq_ok_iff hp, horigin, Except.ok.injEq]

/-- **A file is its document.**  Absolute paths have the same document exactly if they have the same
normal form, only relative paths have none, and the document stands for the file wherever one is
used for the other. -/
theorem document_of_file (hp : p.isAbsolute = true) (hq : q.isAbsolute = true) :
    (sourceUri p = sourceUri q ↔ p.normalize = q.normalize) ∧
      (p.normalize = q.normalize ↔ p.normalize.components = q.normalize.components) ∧
      (∀ (r : Path) (fault : DocumentFault),
        sourceUri r = .error fault ↔ r.isAbsolute = false ∧ fault = .relativePath r) ∧
      ∃ u file, sourceUri p = .ok u ∧ u.StandsFor p file := by
  refine ⟨?_, Path.normalize_eq_iff hp hq, fun _ _ => sourceUri_eq_error_iff, ?_⟩
  · rw [sourceUri_of_isAbsolute hq, sourceUri_eq_ok_iff hq]
  · obtain ⟨file, hfile⟩ := exists_standsFor hp
    exact ⟨_, file, sourceUri_of_isAbsolute hp, hfile⟩

/-- A file whose name is no text. -/
def strayFile (front : String) : Path :=
  ⟨Text.bytes front ++ 0xFF :: Text.bytes ".c"⟩

/-- Two spellings of one file, and another file that is shown like it. -/
theorem document_of_strayFile :
    sourceUri (strayFile "/src/./a") = sourceUri (strayFile "/src/lib/../a") ∧
      sourceUri (strayFile "/src/./a") ≠ sourceUri (.ofText "/src/a\ufffd.c") ∧
      ∃ u file, sourceUri (strayFile "/src/./a") = .ok u ∧
        u.StandsFor (strayFile "/src/./a") file := by
  have hsame := document_of_file (p := strayFile "/src/./a") (q := strayFile "/src/lib/../a")
    (by decide) (by decide)
  have hother := document_of_file (p := strayFile "/src/./a") (q := .ofText "/src/a\ufffd.c")
    (by decide) (by decide)
  exact ⟨hsame.1.2 (by decide), mt hother.1.1 (by decide), hsame.2.2.2⟩

end AsmExplorer
