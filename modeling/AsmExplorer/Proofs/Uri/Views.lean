import AsmExplorer.Proofs.Path.Names
import AsmExplorer.Proofs.Uri.Document
import AsmExplorer.Proofs.Uri.Files
import AsmExplorer.Proofs.Uri.Segments
import AsmExplorer.View.Registry

/-!
# The view of a file leads back to the file

The document of a file has an assembly view, and the view holds the document (`view_of_file`).  The
names of a path are encoded as settled segments, since a name that is no dots is none once it is
encoded (`settled_encode`), and the extension of a view makes a settled segment of whatever the name
is (`settled_extension`).  So the path of the view and the document inside its query are both read
as they are written.
-/

namespace AsmExplorer

open AsmExplorer.Path (EntryName ofNames levels rooted)

variable {p : Path} {names : List EntryName}

/-! ### Encoded names -/

namespace Uri

theorem isKept_of_segmentPlain {c : Char} (h : segmentPlain c = true) : isKept c = true := by
  refine isKept_iff.2 ⟨?_, ?_, ?_⟩
  · simp only [segmentPlain, Bool.and_eq_true] at h
    exact h.1
  · rintro rfl
    exact absurd h (by decide)
  · rintro rfl
    exact absurd h (by decide)

theorem isKept_hexDigit : ∀ n < 16, isKept (Text.hexDigit n) = true := by
  decide

theorem isKept_of_mem_encode {name : List UInt8} {c : Char}
    (h : c ∈ Text.percentEncode segmentPlain name) : isKept c = true := by
  obtain ⟨-, -, -, hplain, -⟩ | rfl | ⟨n, hn, rfl⟩ := Text.mem_percentEncode h
  · exact isKept_of_segmentPlain hplain
  · decide
  · exact isKept_hexDigit n hn

theorem toLower_eq_self_or (c : Char) :
    c.toLower = c ∨ 65 ≤ c.toNat ∧ c.toNat ≤ 90 ∧ c.toLower.toNat = c.toNat + 32 := by
  unfold Char.toLower
  split
  · rename_i h
    have hlow : 65 ≤ c.toNat := h.1
    have hhigh : c.toNat ≤ 90 := h.2
    refine .inr ⟨hlow, hhigh, ?_⟩
    show (c.val + 32).toNat = c.val.toNat + 32
    rw [UInt32.toNat_add]
    exact Nat.mod_eq_of_lt (Nat.lt_of_le_of_lt (Nat.add_le_add_right hhigh 32) (by decide))
  · exact .inl rfl

theorem toLower_eq_iff_of_lt {c d : Char} (hd : d.toNat < 65) : c.toLower = d ↔ c = d := by
  constructor
  · rintro rfl
    obtain h | ⟨hlow, -, h⟩ := toLower_eq_self_or c
    · exact h.symm
    · omega
  · rintro rfl
    obtain h | ⟨hlow, -, -⟩ := toLower_eq_self_or c
    · exact h
    · omega

theorem toLower_eq_e_iff {c : Char} : c.toLower = 'e' ↔ c = 'e' ∨ c = 'E' := by
  constructor
  · intro h
    obtain hself | ⟨-, -, hcapital⟩ := toLower_eq_self_or c
    · exact .inl (hself.symm.trans h)
    · rw [h] at hcapital
      have hE : c.toNat = 'E'.toNat := Nat.add_right_cancel hcapital.symm
      exact .inr (Char.toNat_inj.1 hE)
  · rintro (rfl | rfl) <;> rfl

/-- A text that stands for a dot and other bytes, of which it goes on to be the given text but for
capitals. -/
def IsDotThen (tail segment : List Char) : Prop :=
  ∃ rest, rest.map Char.toLower = tail ∧
    Text.percentDecode segment = Text.utf8 ['.'] ++ Text.percentDecode rest

theorem isDotThen_of_dot {segment tail : List Char}
    (h : segment.map Char.toLower = '.' :: tail) : IsDotThen tail segment := by
  obtain ⟨c, rest, rfl, hc, hrest⟩ := List.map_eq_cons_iff.1 h
  obtain rfl := (toLower_eq_iff_of_lt (by decide)).1 hc
  exact ⟨rest, hrest, Text.percentDecode_cons (by decide) rest⟩

theorem isDotThen_of_encoded {segment tail : List Char}
    (h : segment.map Char.toLower = '%' :: '2' :: 'e' :: tail) : IsDotThen tail segment := by
  obtain ⟨c, more, rfl, hc, hmore⟩ := List.map_eq_cons_iff.1 h
  obtain ⟨d, more, rfl, hd, hmore⟩ := List.map_eq_cons_iff.1 hmore
  obtain ⟨e, rest, rfl, he, hrest⟩ := List.map_eq_cons_iff.1 hmore
  obtain rfl := (toLower_eq_iff_of_lt (by decide)).1 hc
  obtain rfl := (toLower_eq_iff_of_lt (by decide)).1 hd
  refine ⟨rest, hrest, ?_⟩
  obtain rfl | rfl := toLower_eq_e_iff.1 he
  · rw [Text.percentDecode]
    rfl
  · rw [Text.percentDecode]
    rfl

theorem IsDotThen.percentDecode_eq {segment : List Char} (h : IsDotThen [] segment) :
    Text.percentDecode segment = Text.utf8 ['.'] := by
  obtain ⟨rest, hrest, hdecode⟩ := h
  rw [hdecode, List.map_eq_nil_iff.1 hrest, Text.percentDecode, List.append_nil]

theorem percentDecode_of_isHere {segment : List Char} (h : isHere segment = true) :
    Text.percentDecode segment = Text.utf8 ['.'] := by
  simp only [isHere, List.any_cons, List.any_nil, Bool.or_false, Bool.or_eq_true, beq_iff_eq] at h
  obtain h | h := h
  · exact (isDotThen_of_dot h.symm).percentDecode_eq
  · exact (isDotThen_of_encoded h.symm).percentDecode_eq

theorem percentDecode_of_isUp {segment : List Char} (h : isUp segment = true) :
    Text.percentDecode segment = Text.utf8 ['.', '.'] := by
  have htwo {rest : List Char} (hrest : IsDotThen [] rest)
      (h : Text.percentDecode segment = Text.utf8 ['.'] ++ Text.percentDecode rest) :
      Text.percentDecode segment = Text.utf8 ['.', '.'] := by
    rw [h, hrest.percentDecode_eq, Text.utf8_cons '.' ['.']]
  simp only [isUp, List.any_cons, List.any_nil, Bool.or_false, Bool.or_eq_true, beq_iff_eq] at h
  obtain h | h | h | h := h
  · obtain ⟨rest, hrest, hdecode⟩ := isDotThen_of_dot h.symm
    exact htwo (isDotThen_of_dot hrest) hdecode
  · obtain ⟨rest, hrest, hdecode⟩ := isDotThen_of_encoded h.symm
    exact htwo (isDotThen_of_encoded hrest) hdecode
  · obtain ⟨rest, hrest, hdecode⟩ := isDotThen_of_encoded h.symm
    exact htwo (isDotThen_of_dot hrest) hdecode
  · obtain ⟨rest, hrest, hdecode⟩ := isDotThen_of_dot h.symm
    exact htwo (isDotThen_of_encoded hrest) hdecode

theorem percentDecode_encode (name : List UInt8) :
    Text.percentDecode (Text.percentEncode segmentPlain name) = name := by
  have hpercent : segmentPlain '%' = false := by decide
  have h := Text.percentDecode_percentEncode hpercent name []
  rwa [List.append_nil, Text.percentDecode, List.append_nil] at h

theorem settled_encode (name : EntryName) :
    Settled (Text.percentEncode segmentPlain name.bytes) where
  isKept_of_mem _ hc := isKept_of_mem_encode hc
  not_up := by
    -- dots in any spelling read as dots, and an encoded name reads as the name
    refine Bool.eq_false_iff.2 fun hup => name.ne_up ?_
    rw [← percentDecode_encode name.bytes, percentDecode_of_isUp hup]
    rfl
  not_here := by
    refine Bool.eq_false_iff.2 fun hhere => name.ne_here ?_
    rw [← percentDecode_encode name.bytes, percentDecode_of_isHere hhere]
    rfl

theorem eq_nil_of_encode_eq_nil {name : List UInt8}
    (h : Text.percentEncode segmentPlain name = []) : name = [] := by
  rw [← percentDecode_encode name, h]
  rfl

theorem encode_ne_nil (name : EntryName) : Text.percentEncode segmentPlain name.bytes ≠ [] :=
  mt eq_nil_of_encode_eq_nil name.ne_nil

/-- The document of the root has one empty segment; all others have encoded names. -/
theorem encoded_eq_or_exists_name (names : List EntryName) :
    encoded names = [[]] ∨ ∀ part ∈ encoded names, ∃ name : EntryName,
      part = Text.percentEncode segmentPlain name.bytes := by
  cases names with
  | nil => exact .inl rfl
  | cons name names =>
    refine .inr fun part hpart => ?_
    rw [encoded, levels, List.map_map] at hpart
    obtain ⟨entry, -, hentry⟩ := List.mem_map.1 hpart
    exact ⟨entry, hentry.symm⟩

theorem settled_of_mem_encoded {part : List Char} (h : part ∈ encoded names) : Settled part := by
  obtain hroot | hnames := encoded_eq_or_exists_name names
  · rw [hroot, List.mem_singleton] at h
    rw [h]
    exact settled_nil
  · obtain ⟨name, rfl⟩ := hnames part h
    exact settled_encode name

theorem encoded_eq_or_ne_nil (names : List EntryName) :
    encoded names = [[]] ∨ ∀ part ∈ encoded names, part ≠ [] := by
  refine (encoded_eq_or_exists_name names).imp_right fun hnames part hpart => ?_
  obtain ⟨name, rfl⟩ := hnames part hpart
  exact encode_ne_nil name

theorem encoded_ne_nil (names : List EntryName) : encoded names ≠ [] := by
  cases names <;> simp [encoded, levels]

end Uri

/-! ### Extensions -/

theorem replaceNameExtension_eq (name extension : List Char) :
    replaceNameExtension name extension = (Path.splitName '.' name).1 ++ '.' :: extension := by
  cases hsplit : Text.splitLast '.' name with
  | none => simp [replaceNameExtension, Path.splitName, hsplit]
  | some parts =>
    obtain ⟨before, after⟩ := parts
    cases hbefore : before.isEmpty with
    | true => simp [replaceNameExtension, Path.splitName, hsplit, hbefore]
    | false => simp [replaceNameExtension, Path.splitName, hsplit, hbefore]

/-- The extension of the last segment is replaced. -/
theorem replaceExtension_rooted {last : List Char} (h : '/' ∉ last) (init : List (List Char))
    (extension : List Char) :
    replaceExtension (rooted '/' (init ++ [last])) extension =
      rooted '/' (init ++ [replaceNameExtension last extension]) := by
  have hsplit : Text.splitLast '/' (rooted '/' (init ++ [last])) =
      some (rooted '/' init, last) := by
    simpa using Text.splitLast_append_cons h (rooted '/' init)
  rw [replaceExtension, hsplit]
  simp

namespace Uri

theorem settled_extension {stem : List Char} (h : ∀ c ∈ stem, isKept c = true) :
    Settled (stem ++ '.' :: "asm".toList) := by
  -- it ends in a letter that no spelling of dots ends in
  have hdots (dots : List Char) (hdots : dots.getLast? ≠ some 'm') :
      (dots == (stem ++ '.' :: "asm".toList).map Char.toLower) = false := by
    refine beq_false_of_ne fun heq => hdots ?_
    rw [heq, List.map_append, List.getLast?_append]
    rfl
  refine ⟨?_, ?_, ?_⟩
  · intro c hc
    obtain hc | hc := List.mem_append.1 hc
    · exact h c hc
    · have hextension : ('.' :: "asm".toList).all isKept = true := by decide
      exact List.all_eq_true.1 hextension c hc
  · simp only [isUp, List.any_cons, List.any_nil]
    rw [hdots _ (by decide), hdots _ (by decide), hdots _ (by decide), hdots _ (by decide)]
    rfl
  · simp only [isHere, List.any_cons, List.any_nil]
    rw [hdots _ (by decide), hdots _ (by decide)]
    rfl

/-- The path of the assembly view of a file is one that reading leaves as it is. -/
theorem exists_replaceExtension_eq (names : List EntryName) :
    ∃ segment more, replaceExtension (rooted '/' (encoded names)) "asm".toList =
        rooted '/' (segment :: more) ∧ (∀ part ∈ segment :: more, Settled part) ∧ segment ≠ [] := by
  obtain hnil | ⟨init, last, hencoded⟩ := List.eq_nil_or_concat (encoded names)
  · exact absurd hnil (encoded_ne_nil names)
  rw [List.concat_eq_append] at hencoded
  have hsettled : ∀ part ∈ init ++ [last], Settled part :=
    fun part hpart => settled_of_mem_encoded (hencoded ▸ hpart)
  have hlast : Settled last := hsettled last (by simp)
  have hslash : '/' ∉ last := fun hmem => (isKept_iff.1 (hlast.isKept_of_mem _ hmem)).2.1 rfl
  have hview : Settled ((Path.splitName '.' last).1 ++ '.' :: "asm".toList) :=
    settled_extension fun c hc => hlast.isKept_of_mem c (Path.mem_of_mem_stem hc)
  rw [hencoded, replaceExtension_rooted hslash, replaceNameExtension_eq]
  -- the first segment is the one with the extension if it is the only one
  cases init with
  | nil => exact ⟨_, [], rfl, by simpa using hview, by simp⟩
  | cons first init =>
    refine ⟨first, init ++ [(Path.splitName '.' last).1 ++ '.' :: "asm".toList], rfl, ?_, ?_⟩
    · intro part hpart
      rw [← List.cons_append, List.mem_append, List.mem_singleton] at hpart
      obtain hpart | rfl := hpart
      · exact hsettled part (List.mem_append_left _ hpart)
      · exact hview
    · obtain hroot | hne := encoded_eq_or_ne_nil names
      · simp [hroot] at hencoded
      · exact hne first (by simp [hencoded])

end Uri

/-! ### Views -/

theorem chars_fileUri (names : List EntryName) :
    (fileUri (ofNames names)).chars =
      "file".toList ++ ':' :: '/' :: '/' :: rooted '/' (Uri.encoded names) := by
  simp [Uri.chars, fileUri, Authority.chars, Uri.localAuthority, filePathChars_ofNames]

theorem parseChars_fileUri (names : List EntryName) :
    Uri.parseChars (fileUri (ofNames names)).chars = .ok (fileUri (ofNames names)) := by
  obtain ⟨segment, more, hencoded⟩ := List.exists_cons_of_ne_nil (Uri.encoded_ne_nil names)
  have hsettled : ∀ part ∈ segment :: more, Uri.Settled part :=
    fun part hpart => Uri.settled_of_mem_encoded (hencoded ▸ hpart)
  have hne : segment = [] → more = [] := by
    intro hnil
    obtain hroot | hall := Uri.encoded_eq_or_ne_nil names
    · rw [hroot] at hencoded
      exact (List.cons.inj hencoded).2.symm
    · exact absurd hnil (hall segment (by simp [hencoded]))
  rw [chars_fileUri, hencoded, Uri.parseChars_file hsettled hne, fileUri, filePathChars_ofNames,
    hencoded]

/-- The query of a view holds its source. -/
theorem sourceOfAssembly?_eq {source view : Uri} (hread : Uri.parseChars source.chars = .ok source)
    (hassembly : view.isAssembly = true)
    (hquery : view.query = some (appendPair none sourceKey source.chars)) :
    sourceOfAssembly? view = some source := by
  rw [sourceOfAssembly?, if_pos hassembly, hquery, Option.getD_some, appendPair,
    Text.formPairs_pair]
  simp [hread, Except.toOption]

/-- The view of the document of a path: its path is read as it is written, with the new extension,
and it has no query but the pair of its source. -/
theorem assemblyUri_fileUri (names : List EntryName) :
    assemblyUri (fileUri (ofNames names)) =
      .ok { scheme := assemblyScheme, authority := none
            path := replaceExtension (fileUri (ofNames names)).path "asm".toList
            query := some (appendPair none sourceKey (fileUri (ofNames names)).chars)
            fragment := none } := by
  obtain ⟨segment, more, hpath, hsettled, hne⟩ := Uri.exists_replaceExtension_eq names
  have hrooted : replaceExtension (fileUri (ofNames names)).path "asm".toList =
      rooted '/' (segment :: more) := by
    rw [fileUri, filePathChars_ofNames, hpath]
  simp only [assemblyUri, hrooted, Uri.parseChars_assembly hsettled hne]

theorem exists_assemblyUri_eq (names : List EntryName) :
    ∃ view, assemblyUri (fileUri (ofNames names)) = .ok view ∧ view.isAssembly = true ∧
      sourceOfAssembly? view = some (fileUri (ofNames names)) :=
  ⟨_, assemblyUri_fileUri names, rfl, sourceOfAssembly?_eq (parseChars_fileUri names) rfl rfl⟩

theorem sourceOfAssembly?_of_sourceUri {source view : Uri} (hsource : sourceUri p = .ok source)
    (hview : assemblyUri source = .ok view) : sourceOfAssembly? view = some source := by
  have hp : p.isAbsolute = true := isAbsolute_of_sourceUri hsource
  obtain ⟨names, hnames⟩ := Path.exists_normalize_eq hp
  rw [sourceUri_of_isAbsolute hp, hnames, Except.ok.injEq] at hsource
  subst hsource
  obtain ⟨view', hview', -, heq⟩ := exists_assemblyUri_eq names
  rw [hview, Except.ok.injEq] at hview'
  rw [hview', heq]

/-! ### Questions -/

/-- Opening a source opens its view, which shows that source unless it was open before. -/
theorem ViewRegistry.exists_openView_eq {source view : Uri} (h : assemblyUri source = .ok view)
    (r : ViewRegistry) :
    ∃ r', r.openView source = .ok (r', view) ∧
      (r.isOpen view = false → ∃ v, r'.view? view = some v ∧ v.source = source) := by
  have hnew {v : OpenView} (hopen : r.isOpen view = false) (hv : v.assembly = view) :
      (r.views ++ [v]).find? (·.assembly == view) = some v := by
    have hnone : r.views.find? (·.assembly == view) = none :=
      Option.not_isSome_iff_eq_none.1 (Bool.eq_false_iff.1 hopen)
    rw [List.find?_append, hnone]
    simp [hv]
  simp only [openView, h, bind, Except.bind, pure, Except.pure]
  split
  · rename_i hopen
    exact ⟨r, rfl, fun hclosed => absurd hopen (by simp [hclosed])⟩
  · split
    · exact ⟨_, rfl, fun hclosed => ⟨_, hnew hclosed rfl, rfl⟩⟩
    · exact ⟨_, rfl, fun hclosed => ⟨_, hnew hclosed rfl, rfl⟩⟩

/-- The document `view` is the assembly view of the document `source`, and what is asked about the
view is answered about the source. -/
structure Uri.IsViewOf (view source : Uri) : Prop where
  assemblyUri_eq : assemblyUri source = .ok view
  isAssembly : view.isAssembly = true
  source_eq : sourceOfAssembly? view = some source
  /-- Opening the source opens the view, which shows the source. -/
  openView_eq : ∀ r : ViewRegistry, ∃ r', r.openView source = .ok (r', view) ∧
    (r.isOpen view = false → ∃ v, r'.view? view = some v ∧ v.source = source)
  content?_eq : ∀ r : ViewRegistry, r.content? view =
    some ({ r with cache := (r.cache.getOrCompile source).1 }, (r.cache.getOrCompile source).2)
  definition?_eq : ∀ (r : ViewRegistry) (line : Nat), r.definition? view line =
    (r.cache.unit? source).bind fun unit => unit.definitionAt? line
  /-- The view, which is the key of the source in the cache, is that of no other file. -/
  eq_of_assemblyUri_eq : ∀ (q : Path) (other : Uri), sourceUri q = .ok other →
    assemblyUri other = .ok view → other = source

/-- **The view of a file leads back to the file.** -/
theorem view_of_file (hp : p.isAbsolute = true) :
    ∃ source view : Uri, sourceUri p = .ok source ∧ view.IsViewOf source := by
  obtain ⟨names, hnames⟩ := Path.exists_normalize_eq hp
  obtain ⟨view, hview, hassembly, hsource⟩ := exists_assemblyUri_eq names
  refine ⟨fileUri (ofNames names), view, by rw [sourceUri_of_isAbsolute hp, hnames],
    hview, hassembly, hsource, ViewRegistry.exists_openView_eq hview, ?_, ?_, ?_⟩
  · intro r
    simp only [ViewRegistry.content?, hsource, Option.bind_eq_bind, Option.bind_some]
  · intro r line
    simp only [ViewRegistry.definition?, hsource, Option.bind_eq_bind, Option.bind_some]
  · -- the view holds one source only
    intro q other hother hsame
    have hback := sourceOfAssembly?_of_sourceUri hother hsame
    rw [hsource, Option.some.injEq] at hback
    exact hback.symm

/-- A path whose characters mean something else in a URI, after a drive letter, and whose name is no
text. -/
theorem view_of_awkward_file :
    ∃ source view : Uri, sourceUri (strayFile "/C|/./q%/a?b#c d") = .ok source ∧
      view.IsViewOf source :=
  view_of_file (by decide)

end AsmExplorer
