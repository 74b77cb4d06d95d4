import AsmExplorer.Proofs.Uri.Views

/-!
# Extensions in documents

The view of a file shows the path of the file with the extension `asm`.  The extension is replaced
in the encoded path of the document, where the last segment starts after the last slash and its
extension after the last dot.  This is what setting the extension of the file does:

* `Text.splitLast_percentEncode` : a mark that encoding leaves alone divides encoded bytes where it
  divides the bytes.
* `replaceExtension_encoded` : so the last segment of the new path is the encoded name with the new
  extension, and the other segments stay.
* `view_path_extension` : **and the path of the view is that of the document of the file with its
  extension set to `asm`**.

Changing the extension of the file comes to the same, unless two dots are left when the old
extension is cut off.  These name no file, and so they get no extension
(`sourceUri_withExtension_of_stem_eq`).
-/

namespace AsmExplorer

open AsmExplorer.Path (EntryName ofNames levels rooted slash dot splitName)

variable {p q : Path} {names init : List EntryName} {entry : EntryName} {extension : List UInt8}

/-! ### Marks in encoded bytes -/

namespace Text

variable {b mark : UInt8} {plain : Char → Bool}

/-- Whether a byte stands for an ASCII character that is neither the percent sign nor one of its
digits. -/
def IsMark (b : UInt8) : Prop :=
  b < 0x80 ∧ asciiChar b ≠ '%' ∧ ∀ n < 16, asciiChar b ≠ hexDigit n

instance : DecidablePred IsMark := fun b =>
  inferInstanceAs (Decidable (b < 0x80 ∧ asciiChar b ≠ '%' ∧ ∀ n < 16, asciiChar b ≠ hexDigit n))

theorem IsMark.mem_of_mem_percentEncode {bytes : List UInt8} (hmark : IsMark b)
    (h : asciiChar b ∈ percentEncode plain bytes) : b ∈ bytes := by
  obtain ⟨b', hb', hsmall, -, heq⟩ | hpercent | ⟨n, hn, hdigit⟩ := mem_percentEncode h
  · have hbytes : [b] = [b'] := by rw [← utf8_asciiChar hmark.1, heq, utf8_asciiChar hsmall]
    rwa [List.singleton_inj.1 hbytes]
  · exact absurd hpercent hmark.2.1
  · exact absurd hdigit (hmark.2.2 n hn)

/-- **A mark that stands for itself divides encoded bytes where it divides the bytes.** -/
theorem splitLast_percentEncode (hplain : plain (asciiChar mark) = true) (hmark : IsMark mark)
    (bytes : List UInt8) :
    splitLast (asciiChar mark) (percentEncode plain bytes) =
      (splitLast mark bytes).map fun (before, after) =>
        (percentEncode plain before, percentEncode plain after) := by
  cases hsplit : splitLast mark bytes with
  | none =>
    rw [Option.map_none, splitLast_eq_none_iff]
    exact mt hmark.mem_of_mem_percentEncode (splitLast_eq_none_iff.1 hsplit)
  | some parts =>
    obtain ⟨before, after⟩ := parts
    obtain ⟨rfl, hafter⟩ := splitLast_eq_some_iff.1 hsplit
    have hencoded : asciiChar mark ∉ percentEncode plain after :=
      mt hmark.mem_of_mem_percentEncode hafter
    have hself : percentEncode plain (mark :: after) =
        asciiChar mark :: percentEncode plain after := by
      rw [percentEncode, List.flatMap_cons, encodeByte, if_pos ⟨hmark.1, hplain⟩]
      rfl
    rw [percentEncode_append, hself, splitLast_append_cons hencoded]
    rfl

end Text

/-! ### The extension of an encoded name -/

theorem fst_splitName_encode (name : List UInt8) :
    (splitName '.' (Text.percentEncode Uri.segmentPlain name)).1 =
      Text.percentEncode Uri.segmentPlain (splitName dot name).1 := by
  have hnil (part : List UInt8) : Text.percentEncode Uri.segmentPlain part = [] ↔ part = [] :=
    ⟨Uri.eq_nil_of_encode_eq_nil, fun h => h ▸ rfl⟩
  have hmark : Text.IsMark dot := by decide
  exact Path.fst_splitName_map hnil (Text.splitLast_percentEncode (by decide) hmark name)

theorem encode_dot_extension {cs : List Char} (h : ∀ c ∈ cs, Uri.segmentPlain c = true) :
    Text.percentEncode Uri.segmentPlain (dot :: Text.utf8 cs) = '.' :: cs := by
  have hutf8 : dot :: Text.utf8 cs = Text.utf8 ('.' :: cs) := rfl
  rw [hutf8]
  refine Text.percentEncode_utf8_eq_self fun c hc => ?_
  have hplain : Uri.segmentPlain c = true := by
    rcases List.mem_cons.1 hc with rfl | hc
    · decide
    · exact h c hc
  have hkept := (Uri.isKept_iff.1 (Uri.isKept_of_segmentPlain hplain)).1
  exact ⟨Nat.lt_succ_of_lt (Uri.toNat_bounds_of_pathPlain hkept).2, hplain⟩

theorem Path.levels_append_singleton (init : List EntryName) (entry : EntryName) :
    levels (init ++ [entry]) = init.map EntryName.bytes ++ [entry.bytes] := by
  cases init <;> simp [levels]

theorem encoded_append_singleton (init : List EntryName) (entry : EntryName) :
    Uri.encoded (init ++ [entry]) = init.map (Text.percentEncode Uri.segmentPlain ·.bytes) ++
      [Text.percentEncode Uri.segmentPlain entry.bytes] := by
  rw [Uri.encoded, Path.levels_append_singleton, List.map_append, List.map_map]
  rfl

/-- **The extension of an encoded path is that of its last name.** -/
theorem replaceExtension_encoded {cs : List Char} (hne : Text.utf8 cs ≠ [])
    (hslash : slash ∉ Text.utf8 cs) (h : ∀ c ∈ cs, Uri.segmentPlain c = true)
    (init : List EntryName) (entry : EntryName) :
    replaceExtension (rooted '/' (Uri.encoded (init ++ [entry]))) cs =
      rooted '/' (Uri.encoded (init ++ [entry.withExtension (Text.utf8 cs) hne hslash])) := by
  have hsettled := Uri.settled_encode entry
  have hencoded : '/' ∉ Text.percentEncode Uri.segmentPlain entry.bytes := fun hmem =>
    (Uri.isKept_iff.1 (hsettled.isKept_of_mem _ hmem)).2.1 rfl
  rw [encoded_append_singleton, replaceExtension_rooted hencoded, replaceNameExtension_eq,
    fst_splitName_encode, ← encode_dot_extension h, ← Text.percentEncode_append,
    encoded_append_singleton]
  rfl

/-! ### The extension of a file -/

namespace Path

theorem getLast?_rooted_levels {init : List EntryName} (hne : init ≠ []) :
    (rooted slash (levels init)).getLast? ≠ some slash := by
  obtain rfl | ⟨front, last, rfl⟩ := List.eq_nil_or_concat init
  · exact absurd rfl hne
  · intro hlast
    rw [List.concat_eq_append, levels_append_singleton, rooted_append, rooted_cons, rooted_nil,
      List.append_nil, List.append_cons, List.getLast?_append_of_ne_nil _ last.ne_nil] at hlast
    exact last.slash_not_mem (List.mem_of_getLast? hlast)

theorem join_ofNames (init : List EntryName) (entry : EntryName) :
    (ofNames init).join ⟨entry.bytes⟩ = ofNames (init ++ [entry]) := by
  have hrelative : (mk entry.bytes).isAbsolute = false :=
    isAbsolute_mk_eq_false entry.slash_not_mem
  have hempty : rooted slash (levels init) ≠ [] :=
    bytes_ofNames init ▸ bytes_ne_of_isAbsolute (isAbsolute_ofNames init)
  have hwhole : ofNames (init ++ [entry]) =
      mk (rooted slash (init.map EntryName.bytes) ++ slash :: entry.bytes) := by
    rw [ofNames_eq_mk, levels_append_singleton, rooted_append, rooted_cons, rooted_nil,
      List.append_nil]
  rw [hwhole, join, if_neg (by simp [hrelative]), bytes_ofNames]
  cases init with
  | nil => exact if_pos (.inr rfl)
  | cons first rest =>
    exact if_neg (not_or.2 ⟨hempty, getLast?_rooted_levels (List.cons_ne_nil first rest)⟩)

theorem fileName?_ofNames (init : List EntryName) (entry : EntryName) :
    (ofNames (init ++ [entry])).fileName? = some entry.bytes := by
  rw [← join_ofNames, fileName?_join_name]

theorem components_dropLast_ofNames (init : List EntryName) (entry : EntryName) :
    (ofNames (init ++ [entry])).components.dropLast = (ofNames init).components := by
  rw [components_ofNames, components_ofNames, List.map_append, ← List.cons_append,
    List.map_singleton, List.dropLast_concat]

theorem components_setExtension_ofNames (hne : extension ≠ []) (hslash : slash ∉ extension) :
    ((ofNames (init ++ [entry])).setExtension extension).components =
      (ofNames (init ++ [entry.withExtension extension hne hslash])).components := by
  rw [components_setExtension (fileName?_ofNames init entry) hne hslash,
    components_dropLast_ofNames, components_ofNames, components_ofNames, List.map_append,
    List.cons_append, List.map_singleton]

/-- Changing the extension of a path changes its last name, unless two dots are left when the old
extension is cut off. -/
theorem components_withExtension_ofNames (hstem : (splitName dot entry.bytes).1 ≠ [dot])
    (hne : extension ≠ []) (hslash : slash ∉ extension) :
    ((ofNames (init ++ [entry])).withExtension extension).components =
      (ofNames (init ++ [entry.withExtension extension hne hslash])).components := by
  rw [← join_ofNames, components_withExtension_join _ hstem hne hslash, components_ofNames,
    components_ofNames, List.map_append, List.cons_append]
  rfl

theorem components_normalize_join_up (init : List EntryName) :
    ((ofNames init).join ⟨[dot, dot]⟩).normalize.components =
      (ofNames init.dropLast).components := by
  have hreaches : (ofNames init).Reaches (.rooted init) := reaches_path (.rooted init)
  have hpush : pushNormal (NormalForm.rooted init).components.reverse .up =
      (NormalForm.rooted init.dropLast).components.reverse := NormalForm.pushNormal_leave _
  rw [components_ofNames, show [dot, dot] = Component.up.bytes from rfl,
    hreaches.components_join_move (.inl rfl) hpush, NormalForm.components]

theorem fst_splitName_eq_dot_iff :
    (splitName dot entry.bytes).1 = [dot] ↔
      ∃ rest, entry.bytes = dot :: dot :: rest ∧ dot ∉ rest := by
  constructor
  · intro hstem
    cases hsplit : Text.splitLast dot entry.bytes with
    | none =>
      simp only [splitName, hsplit] at hstem
      exact absurd hstem entry.ne_here
    | some parts =>
      obtain ⟨before, after⟩ := parts
      simp only [splitName, hsplit] at hstem
      split at hstem
      · exact absurd hstem entry.ne_here
      · obtain rfl : before = [dot] := hstem
        exact ⟨after, Text.splitLast_eq_some_iff.1 hsplit⟩
  · rintro ⟨rest, hname, hrest⟩
    have hsplit : splitName dot ([dot] ++ dot :: rest) = ([dot], some rest) :=
      splitName_append (List.cons_ne_nil _ _) hrest
    rw [hname]
    exact congrArg Prod.fst hsplit

/-- An absolute path whose normal form has a file name goes to that name in a directory. -/
theorem exists_ofNames_of_fileName? {name : List UInt8} (hp : p.isAbsolute = true)
    (hname : p.normalize.fileName? = some name) :
    ∃ init entry, p.normalize = ofNames (init ++ [entry]) ∧ entry.bytes = name := by
  obtain ⟨names, hnames⟩ := exists_normalize_eq hp
  rw [hnames] at hname ⊢
  obtain rfl | ⟨init, entry, rfl⟩ := List.eq_nil_or_concat names
  · have hroot : (ofNames []).fileName? = none := by decide
    rw [hroot] at hname
    cases hname
  · rw [List.concat_eq_append] at hname ⊢
    rw [fileName?_ofNames, Option.some.injEq] at hname
    exact ⟨init, entry, rfl, hname⟩

end Path

/-! ### The documents of files with another extension -/

theorem sourceUri_of_components_eq (h : q.components = (ofNames names).components) :
    sourceUri q = .ok (fileUri (ofNames names)) := by
  have hq : q.isAbsolute = true := by
    refine Path.isAbsolute_of_root_mem ?_
    rw [h, Path.components_ofNames]
    exact List.mem_cons_self
  rw [sourceUri_of_isAbsolute hq, Path.normalize_congr h, Path.normalize_ofNames]

theorem components_eq_of_path_eq {names' : List EntryName}
    (h : (fileUri (ofNames names)).path = (fileUri (ofNames names')).path) :
    (ofNames names).components = (ofNames names').components := by
  have hbytes := congrArg Text.percentDecode h
  rw [← Path.normalize_ofNames names, ← Path.normalize_ofNames names',
    percentDecode_path_fileUri (Path.isAbsolute_ofNames _),
    percentDecode_path_fileUri (Path.isAbsolute_ofNames _), Path.normalize_ofNames,
    Path.normalize_ofNames] at hbytes
  exact congrArg (fun bytes => (Path.mk bytes).components) hbytes

theorem path_fileUri_ne (init : List EntryName) (entry : EntryName) :
    (fileUri (ofNames (init ++ [entry]))).path ≠ (fileUri (ofNames init.dropLast)).path := by
  intro h
  have hlength := congrArg List.length (components_eq_of_path_eq h)
  rw [Path.components_ofNames, Path.components_ofNames] at hlength
  simp only [List.length_cons, List.length_map, List.length_append, List.length_dropLast,
    List.length_nil] at hlength
  omega

/-- With the extension changed, two dots before a text without dots name the directory above. -/
theorem sourceUri_withExtension_of_stem_eq (hstem : (splitName dot entry.bytes).1 = [dot])
    (init : List EntryName) (extension : List UInt8) :
    sourceUri ((ofNames (init ++ [entry])).withExtension extension) =
      .ok (fileUri (ofNames init.dropLast)) := by
  have hup : ((ofNames init).join ⟨[dot, dot]⟩).isAbsolute = true :=
    Path.isAbsolute_join (Path.isAbsolute_ofNames init)
  have hnormal : ((ofNames init).join ⟨[dot, dot]⟩).normalize =
      (ofNames init.dropLast).normalize := by
    rw [Path.normalize_eq_iff hup (Path.isAbsolute_ofNames _), Path.normalize_ofNames,
      Path.components_normalize_join_up]
  rw [← Path.join_ofNames, Path.withExtension_join_of_stem_eq _ hstem, sourceUri_of_isAbsolute hup,
    hnormal, Path.normalize_ofNames]

/-- The name that the view of a file shows. -/
def viewName (entry : EntryName) : EntryName :=
  entry.withExtension (Text.bytes "asm") (by decide) (by decide)

/-- The view of a file has the path of the document of a file with that name. -/
theorem exists_view_path (init : List EntryName) (entry : EntryName) :
    ∃ view : Uri, assemblyUri (fileUri (ofNames (init ++ [entry]))) = .ok view ∧
      view.path = (fileUri (ofNames (init ++ [viewName entry]))).path := by
  have hplain : "asm".toList.all Uri.segmentPlain = true := by decide
  refine ⟨_, assemblyUri_fileUri _, ?_⟩
  dsimp only
  rw [fileUri, fileUri, filePathChars_ofNames, filePathChars_ofNames]
  exact replaceExtension_encoded (by decide) (by decide) (List.all_eq_true.1 hplain) init entry

/-- Changing the extension names that file, unless two dots are left without the old one. -/
theorem exists_sourceUri_withExtension (init : List EntryName) (entry : EntryName) :
    ∃ swapped : Uri,
      sourceUri ((ofNames (init ++ [entry])).withExtension (Text.bytes "asm")) = .ok swapped ∧
      ((fileUri (ofNames (init ++ [viewName entry]))).path = swapped.path ↔
        (splitName dot entry.bytes).1 ≠ [dot]) := by
  by_cases hstem : (splitName dot entry.bytes).1 = [dot]
  · exact ⟨_, sourceUri_withExtension_of_stem_eq hstem init _,
      iff_of_false (path_fileUri_ne init (viewName entry)) (not_not.2 hstem)⟩
  · have hcomponents : ((ofNames (init ++ [entry])).withExtension (Text.bytes "asm")).components =
        (ofNames (init ++ [viewName entry])).components :=
      Path.components_withExtension_ofNames hstem (by decide) (by decide)
    exact ⟨_, sourceUri_of_components_eq hcomponents, iff_of_true rfl hstem⟩

/-- **The path of a view is that of its file with the extension set to `asm`.**  The extension
follows the stem of the name, and the directories stay.  Where the extension is changed instead, the
path is the same unless the name is two dots before a text without dots. -/
theorem view_path_extension {name : List UInt8} (hp : p.isAbsolute = true)
    (hname : p.normalize.fileName? = some name) :
    ∃ source view renamed swapped : Uri,
      sourceUri p = .ok source ∧ assemblyUri source = .ok view ∧
      sourceUri (p.normalize.setExtension (Text.bytes "asm")) = .ok renamed ∧
      sourceUri (p.normalize.withExtension (Text.bytes "asm")) = .ok swapped ∧
      (p.normalize.setExtension (Text.bytes "asm")).components =
        p.normalize.components.dropLast ++ [.name ((splitName dot name).1 ++ Text.bytes ".asm")] ∧
      view.path = renamed.path ∧
      (view.path = swapped.path ↔ ¬ ∃ rest, name = dot :: dot :: rest ∧ dot ∉ rest) := by
  obtain ⟨init, entry, hnormal, rfl⟩ := Path.exists_ofNames_of_fileName? hp hname
  obtain ⟨view, hview, hpath⟩ := exists_view_path init entry
  obtain ⟨swapped, hswapped, hsame⟩ := exists_sourceUri_withExtension init entry
  have hcomponents : ((ofNames (init ++ [entry])).setExtension (Text.bytes "asm")).components =
      (ofNames (init ++ [viewName entry])).components :=
    Path.components_setExtension_ofNames (by decide) (by decide)
  rw [← Path.fst_splitName_eq_dot_iff, hnormal, Path.components_dropLast_ofNames, hcomponents]
  refine ⟨_, view, _, swapped, ?_, hview, sourceUri_of_components_eq hcomponents, hswapped, ?_,
    hpath, hpath ▸ hsame⟩
  · rw [sourceUri_of_isAbsolute hp, hnormal]
  · rw [Path.components_ofNames, Path.components_ofNames, List.map_append, List.cons_append]
    rfl

/-- A hidden name with bytes that are encoded, one of which is no text, and with more than one dot,
the last one at its end. -/
def awkwardName : List UInt8 :=
  Text.bytes ".é #%2e.t" ++ 0xFF :: Text.bytes "r."

/-- A file of that name, in a directory with a dot. -/
def awkwardFile : Path :=
  ⟨Text.bytes "/a.b/./x/../" ++ awkwardName⟩

theorem view_path_of_awkward_file :
    awkwardFile.isAbsolute = true ∧ awkwardFile.normalize.fileName? = some awkwardName ∧
    ∃ source view swapped : Uri, sourceUri awkwardFile = .ok source ∧
      assemblyUri source = .ok view ∧
      sourceUri (awkwardFile.normalize.withExtension (Text.bytes "asm")) = .ok swapped ∧
      view.path = swapped.path := by
  have hp : awkwardFile.isAbsolute = true := by decide
  have hname : awkwardFile.normalize.fileName? = some awkwardName := by decide
  obtain ⟨source, view, -, swapped, hsource, hview, -, hswapped, -, -, hsame⟩ :=
    view_path_extension hp hname
  refine ⟨hp, hname, source, view, swapped, hsource, hview, hswapped, hsame.2 ?_⟩
  rintro ⟨rest, hrest, -⟩
  -- the second byte is no dot
  have hsecond : awkwardName[1]? = some dot := congrArg (·[1]?) hrest
  exact absurd hsecond (by decide)

/-- Of `..c` there is left `..`, so that changing the extension leads to the root. -/
theorem view_path_of_dots :
    (Path.ofText "/a/..c").isAbsolute = true ∧
    (Path.ofText "/a/..c").normalize.fileName? = some (Text.bytes "..c") ∧
    ∃ source view swapped : Uri, sourceUri (.ofText "/a/..c") = .ok source ∧
      assemblyUri source = .ok view ∧
      sourceUri ((Path.ofText "/a/..c").normalize.withExtension (Text.bytes "asm")) =
        .ok swapped ∧
      view.path = "/a/..asm".toList ∧ swapped.path = "/".toList ∧ view.path ≠ swapped.path := by
  have hsource : sourceUri (.ofText "/a/..c") = .ok (fileUri (.ofText "/a/..c")) := by
    decide +kernel
  have hview : assemblyUri (fileUri (.ofText "/a/..c")) =
      .ok { scheme := "assembly".toList, authority := none, path := "/a/..asm".toList
            query := some "source=file%3A%2F%2F%2Fa%2F..c".toList, fragment := none } := by
    decide +kernel
  have hswapped : sourceUri ((Path.ofText "/a/..c").normalize.withExtension (Text.bytes "asm")) =
      .ok (fileUri (.ofText "/")) := by
    decide +kernel
  have hroot : (fileUri (.ofText "/")).path = "/".toList := by decide
  refine ⟨by decide, by decide, _, _, _, hsource, hview, hswapped, rfl, hroot, ?_⟩
  rw [hroot]
  decide

end AsmExplorer
