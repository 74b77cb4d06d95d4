import AsmExplorer.Proofs.Compiler.Demangling
import AsmExplorer.Proofs.Path.Names
import AsmExplorer.Proofs.Text.Decoding

/-!
# Where listings are written

A listing is written to the scratch directory of its compilation, under the stem of the file with
the extension `asm`.  Stems without a name lead elsewhere: a file without a stem is taken as it is,
and a stem of dots is a way to go, not a name.

* `Path.IsListingIn` : a path is one name in a directory, with the extension of listings.
* `Path.HasPlainStem` : the stem of a file is a name, also when its own extension is cut off.
* `Path.isListingIn_listingPath_iff` : the listing is in a directory exactly for files with a plain
  stem, whatever the directory is, as long as it has no extension that could be changed.
* `CompilerInfo.ReadsListing` : what a compilation returns is read from where the compiler was told
  to write it.
* `CompilerInfo.listing_inside_iff` puts this together for all compilations.
-/

namespace AsmExplorer

namespace Path

variable {scratch file p : Path}

/-! ### Listings in a directory -/

/-- The extension of listings. -/
def listingExtension : List UInt8 :=
  Text.bytes "asm"

/-- Whether a path is one name in a directory, with the extension of listings. -/
structure IsListingIn (output directory : Path) : Prop where
  /-- The path goes one name further than the directory. -/
  child : ∃ name, output.components = directory.components ++ [.name name]
  extension : output.extension? = some listingExtension

/-- Whether the last component of a path has no dot. -/
def EndsPlain (p : Path) : Prop :=
  ∀ c ∈ p.components.getLast?, dot ∉ c.bytes

instance : DecidablePred EndsPlain := fun p =>
  inferInstanceAs (Decidable (∀ c ∈ p.components.getLast?, dot ∉ c.bytes))

/-- Whether a file has a stem, and that is a name also when its own extension is cut off.  This
leaves out one and two dots, and two dots with an extension after them, of which a dot is left. -/
def HasPlainStem (file : Path) : Prop :=
  ∃ stem ∈ file.fileStem?, (splitName dot stem).1 ≠ [dot]

instance : DecidablePred HasPlainStem := fun file =>
  inferInstanceAs (Decidable (∃ stem ∈ file.fileStem?, (splitName dot stem).1 ≠ [dot]))

theorem listingExtension_ne_nil : listingExtension ≠ [] := by
  decide

theorem slash_not_mem_listingExtension : slash ∉ listingExtension := by
  decide

theorem listingPath_eq (scratch file : Path) :
    listingPath scratch file =
      (scratch.join ((file.fileStem?.map mk).getD file)).withExtension listingExtension :=
  rfl

theorem not_isListingIn_of_fileName?_eq_none (h : p.fileName? = none) :
    ¬p.IsListingIn scratch := by
  rintro ⟨⟨name, hname⟩, -⟩
  have hlast : p.fileName? = some name := by
    rw [fileName?_eq_some_iff, hname, List.getLast?_concat]
  rw [h] at hlast
  cases hlast

theorem not_isListingIn_of_components_eq (h : p.components = scratch.components)
    {name : List UInt8} (hname : p.fileName? = some name) :
    ¬(p.setExtension listingExtension).IsListingIn scratch := by
  rintro ⟨⟨other, hother⟩, -⟩
  obtain ⟨entry, rfl⟩ := exists_entryName_of_name hname
  have hpos := List.length_pos_of_mem (List.mem_of_getLast? (fileName?_eq_some_iff.1 hname))
  rw [components_setExtension hname listingExtension_ne_nil slash_not_mem_listingExtension, h]
    at hother
  rw [h] at hpos
  have hlength := congrArg List.length hother
  simp only [List.length_append, List.length_dropLast, List.length_singleton] at hlength
  omega

theorem not_isListingIn_of_nameless (hscratch : scratch.EndsPlain) (hfile : file.fileName? = none) :
    ¬((scratch.join file).withExtension listingExtension).IsListingIn scratch := by
  cases hname : (scratch.join file).fileName? with
  | none =>
    rw [withExtension_of_extension?_eq_none (by rw [extension?, hname, Option.bind_none]),
      setExtension_of_fileName?_eq_none hname]
    exact not_isListingIn_of_fileName?_eq_none hname
  | some name =>
    -- the name is that of the directory
    have hsteps : file.steps = [] := by
      by_contra hsteps
      rw [fileName?_join scratch hsteps, hfile] at hname
      cases hname
    have hjoin : (scratch.join file).components = scratch.components := by
      have hwhole : scratch.join file ≠ file := by
        intro hsame
        rw [hsame, hfile] at hname
        cases hname
      have hrelative : file.isAbsolute = false := by
        refine Bool.eq_false_iff.2 fun habsolute => hwhole ?_
        rw [join, if_pos habsolute]
      rw [components_join_of_ne (fun hempty => hwhole (join_of_bytes_eq hempty)) hrelative, hsteps,
        List.append_nil]
    have hdot : dot ∉ name := by
      have hlast := fileName?_eq_some_iff.1 hname
      rw [hjoin] at hlast
      exact hscratch _ hlast
    have hextension : (scratch.join file).extension? = none := by
      rw [extension?, hname, Option.bind_some, splitName_of_not_mem hdot]
    rw [withExtension_of_extension?_eq_none hextension]
    exact not_isListingIn_of_components_eq hjoin hname

/-- A stem that is two dots when its extension is cut off leads to the parent of a directory. -/
theorem not_isListingIn_of_stem_eq {entry : EntryName}
    (hstem : (splitName dot entry.bytes).1 = [dot]) :
    ¬((scratch.join (mk entry.bytes)).withExtension listingExtension).IsListingIn
      scratch := by
  rw [withExtension_join_of_stem_eq scratch hstem]
  exact not_isListingIn_of_fileName?_eq_none (fileName?_join_up scratch)

theorem exists_entryName_of_stem {stem : List UInt8} (h : file.fileStem? = some stem)
    (hdots : ¬(stem = [dot] ∨ stem = [dot, dot])) : ∃ entry : EntryName, entry.bytes = stem := by
  obtain ⟨name, hname, rfl⟩ := Option.map_eq_some_iff.1 h
  obtain ⟨entry, rfl⟩ := exists_entryName_of_name hname
  obtain ⟨hhere, hup⟩ := not_or.1 hdots
  exact ⟨⟨_, stem_ne_nil entry.ne_nil, hhere, hup, mt mem_of_mem_stem entry.slash_not_mem⟩, rfl⟩

theorem HasPlainStem.isListingIn (h : file.HasPlainStem) (scratch : Path) :
    (listingPath scratch file).IsListingIn scratch := by
  obtain ⟨stem, hstem, hplain⟩ := h
  have hdots : ¬(stem = [dot] ∨ stem = [dot, dot]) := by
    rintro (rfl | rfl)
    · exact hplain (by decide)
    · exact hplain (by decide)
  obtain ⟨entry, rfl⟩ := exists_entryName_of_stem hstem hdots
  have hcomponents := components_withExtension_join scratch hplain listingExtension_ne_nil
    slash_not_mem_listingExtension
  rw [listingPath_eq, hstem, Option.map_some, Option.getD_some]
  refine ⟨⟨_, hcomponents⟩, ?_⟩
  have hname := fileName?_eq_some_iff.2
    ((congrArg List.getLast? hcomponents).trans List.getLast?_concat)
  have hsplit : splitName dot ((splitName dot entry.bytes).1 ++ dot :: listingExtension) =
      ((splitName dot entry.bytes).1, some listingExtension) :=
    splitName_append (stem_ne_nil entry.ne_nil) (by decide)
  rw [extension?, hname, Option.bind_some]
  exact congrArg Prod.snd hsplit

/-- **A listing is in its directory exactly if the stem of the file is plain.** -/
theorem isListingIn_listingPath_iff (hscratch : scratch.EndsPlain) :
    (listingPath scratch file).IsListingIn scratch ↔ file.HasPlainStem := by
  refine ⟨fun hlisting => ?_, fun h => h.isListingIn scratch⟩
  by_contra hplain
  rw [listingPath_eq] at hlisting
  cases hstem : file.fileStem? with
  | none =>
    rw [hstem] at hlisting
    exact not_isListingIn_of_nameless hscratch (Option.map_eq_none_iff.1 hstem) hlisting
  | some stem =>
    rw [hstem] at hlisting
    have hdot : (splitName dot stem).1 = [dot] :=
      Classical.not_not.1 fun hne => hplain ⟨stem, hstem, hne⟩
    by_cases hdots : stem = [dot] ∨ stem = [dot, dot]
    · have hnameless : (mk stem).fileName? = none := by
        rcases hdots with rfl | rfl
        · decide
        · decide
      exact not_isListingIn_of_nameless hscratch hnameless hlisting
    · obtain ⟨entry, rfl⟩ := exists_entryName_of_stem hstem hdots
      exact not_isListingIn_of_stem_eq hdot hlisting

end Path

namespace CompilerInfo

open AsmExplorer.Path (EntryName dot ofNames slash)

/-! ### Compilations -/

/-- The scratch directory of a compilation. -/
def scratchDirectory (m : Machine) : Path :=
  FileTree.pathOf (scratchNames m.files)

/-- The name of a scratch directory. -/
def scratchName (n : Nat) : List UInt8 :=
  Text.bytes ("asmlens-" ++ toString n)

theorem scratchName_plain (n : Nat) : dot ∉ scratchName n ∧ slash ∉ scratchName n := by
  have hplain : ∀ c ∈ ("asmlens-" ++ toString n).toList, c ≠ '.' ∧ c ≠ '/' := by
    intro c hc
    rw [String.toList_append] at hc
    rcases List.mem_append.1 hc with hc | hc
    · have hname : ∀ c ∈ "asmlens-".toList, c ≠ '.' ∧ c ≠ '/' := by simp
      exact hname c hc
    · have hdigits : (toString n).toList = Nat.toDigits 10 n := Nat.toList_repr
      have hdigit : c.isDigit = true :=
        Nat.isDigit_of_mem_toDigits (by decide) (by decide) (hdigits ▸ hc)
      constructor
      · rintro rfl
        exact absurd hdigit (by decide)
      · rintro rfl
        exact absurd hdigit (by decide)
  constructor
  · exact fun h => (hplain '.' ((Text.mem_utf8_iff (by decide)).1 h)).1 rfl
  · exact fun h => (hplain '/' ((Text.mem_utf8_iff (by decide)).1 h)).2 rfl

/-- The name of a scratch directory is one that a directory can hold. -/
def scratchEntry (n : Nat) : EntryName where
  bytes := scratchName n
  ne_nil h := by simp [scratchName, Text.bytes, Text.utf8] at h
  ne_here h := (scratchName_plain n).1 (h ▸ List.mem_singleton_self dot)
  ne_up h := (scratchName_plain n).1 (h ▸ List.mem_cons_self)
  slash_not_mem := (scratchName_plain n).2

theorem endsPlain_scratchDirectory (m : Machine) : (scratchDirectory m).EndsPlain := by
  obtain ⟨n, hn⟩ : ∃ n, scratchNames m.files = temporaryDirectory ++ [scratchName n] := ⟨_, rfl⟩
  let tmp : EntryName := ⟨Text.bytes "tmp", by decide, by decide, by decide, by decide⟩
  have hpath : scratchDirectory m = ofNames [tmp, scratchEntry n] := by
    rw [scratchDirectory, hn]
    rfl
  rw [hpath, Path.EndsPlain, Path.components_ofNames]
  rintro c hc
  obtain rfl : (scratchEntry n).component = c := Option.some.inj hc
  exact (scratchName_plain n).1

variable (info : CompilerInfo) (m : Machine) (settings : CompilationInfo)
  (filters : FilterOptions) (file : Path)

theorem exists_arguments_eq :
    ∃ front, info.arguments settings filters file (outputOf m file) =
      front ++ info.kind.outputArguments (outputOf m file) ++ [file.display] :=
  ⟨_, rfl⟩

/-- How a compilation ends: it reads a listing where the compiler was told to write it, and nowhere
else. -/
inductive ReadsListing : Except CompileError (List ParsedLine) → Prop where
  /-- The compiler is not started. -/
  | spawn (fault : IoFault) (h : (info.compilerRun m settings filters file).1 = .error fault) :
    ReadsListing (.error (.spawn info.exe fault))
  /-- The compiler fails. -/
  | failed (out : ProgramOutput) (h : (info.compilerRun m settings filters file).1 = .ok out)
    (hfailed : out.success = false) :
    ReadsListing (.error (.failed file out.status out.diagnostics))
  /-- There is no listing to read. -/
  | unreadable (fault : IoFault)
    (h : (info.compilerRun m settings filters file).2.files.read
      (info.compilerRun m settings filters file).2.cwd (outputOf m file) = .error fault) :
    ReadsListing (.error (.unreadable (outputOf m file) fault))
  /-- The lines are those of the listing, or of what the demangler makes of it. -/
  | lines (bytes : List UInt8) (listing : List Char)
    (h : (info.compilerRun m settings filters file).2.files.read
      (info.compilerRun m settings filters file).2.cwd (outputOf m file) = .ok bytes)
    (hlisting : listing = Text.decodeLossy bytes ∨ listing =
      (info.demangle (info.compilerRun m settings filters file).2 (Text.decodeLossy bytes)).1) :
    ReadsListing (.ok (info.linesOf filters file listing))

theorem readsListing_readListing {out : ProgramOutput} {after : Machine}
    (hrun : info.compilerRun m settings filters file = (.ok out, after)) :
    info.ReadsListing m settings filters file
      (info.readListing after filters file (outputOf m file)).1 := by
  obtain rfl : (info.compilerRun m settings filters file).2 = after := congrArg Prod.snd hrun
  rw [readListing]
  split
  · rename_i fault hread
    exact .unreadable fault hread
  · rename_i bytes hread
    refine .lines bytes _ hread ?_
    split
    · exact .inr rfl
    · exact .inl rfl

theorem readsListing_compile :
    info.ReadsListing m settings filters file (info.compile m settings filters file).1 := by
  have hrun : Machine.run { m with files := m.files.insert (scratchNames m.files) .directory }
      info.exe (info.arguments settings filters file (outputOf m file)) info.env [] =
        info.compilerRun m settings filters file := rfl
  rw [outputOf] at hrun
  simp only [compile, compileTo, hrun]
  split
  · rename_i fault after hran
    exact .spawn fault (congrArg Prod.fst hran)
  · rename_i out after hran
    by_cases hsuccess : out.success = true
    · rw [if_pos hsuccess]
      exact info.readsListing_readListing m settings filters file hran
    · rw [if_neg hsuccess]
      exact .failed out (congrArg Prod.fst hran) (by simpa using hsuccess)

/-- **A listing is written to its scratch directory and read there, exactly if the stem of the file
is plain.** -/
theorem listing_inside_iff (file : Path) :
    (∀ scratch : Path, scratch.EndsPlain →
      ((listingPath scratch file).IsListingIn scratch ↔ file.HasPlainStem)) ∧
    ∀ (info : CompilerInfo) (m : Machine) (settings : CompilationInfo) (filters : FilterOptions),
      (∃ front, info.arguments settings filters file (outputOf m file) =
        front ++ info.kind.outputArguments (outputOf m file) ++ [file.display]) ∧
      info.ReadsListing m settings filters file (info.compile m settings filters file).1 ∧
      ((outputOf m file).IsListingIn (scratchDirectory m) ↔ file.HasPlainStem) := by
  refine ⟨fun scratch => Path.isListingIn_listingPath_iff, fun info m settings filters => ?_⟩
  exact ⟨info.exists_arguments_eq m settings filters file,
    info.readsListing_compile m settings filters file,
    Path.isListingIn_listingPath_iff (endsPlain_scratchDirectory m)⟩

/-- A file whose name has two dots has its listing in the scratch directory. -/
theorem listing_inside_scratch :
    Path.EndsPlain (.ofText "/tmp/asmlens-0") ∧ Path.HasPlainStem (.ofText "/src/.main.test.c") ∧
      (listingPath (.ofText "/tmp/asmlens-0") (.ofText "/src/.main.test.c")).IsListingIn
        (.ofText "/tmp/asmlens-0") := by
  have hscratch : Path.EndsPlain (.ofText "/tmp/asmlens-0") := by decide
  have hstem : Path.HasPlainStem (.ofText "/src/.main.test.c") := by decide
  exact ⟨hscratch, hstem, ((listing_inside_iff (.ofText "/src/.main.test.c")).1 _ hscratch).2 hstem⟩

/-- Listings beside the scratch directory, in the place of its parent, and nowhere near it. -/
theorem listings_outside_scratch :
    let scratch : Path := .ofText "/tmp/asmlens-0"
    scratch.EndsPlain ∧
      listingPath scratch (.ofText "/src/..c") = .ofText "/tmp/asmlens-0.asm" ∧
      listingPath scratch (.ofText "/src/..a.c") = .ofText "/tmp/asmlens-0/.." ∧
      listingPath scratch (.ofText "/") = .ofText "/" ∧
      ∀ file ∈ ([.ofText "/src/..c", .ofText "/src/..a.c", .ofText "/"] : List Path),
        ¬(listingPath scratch file).IsListingIn scratch := by
  have hscratch : Path.EndsPlain (.ofText "/tmp/asmlens-0") := by decide
  have hstems : ∀ file ∈ ([.ofText "/src/..c", .ofText "/src/..a.c", .ofText "/"] : List Path),
      ¬file.HasPlainStem := by
    decide
  refine ⟨hscratch, by decide, by decide, by decide, fun file hfile hlisting => ?_⟩
  exact hstems file hfile ((Path.isListingIn_listingPath_iff hscratch).1 hlisting)

end CompilerInfo

end AsmExplorer
