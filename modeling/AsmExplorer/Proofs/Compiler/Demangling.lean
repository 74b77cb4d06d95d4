import AsmExplorer.Compiler.Compile
import AsmExplorer.Proofs.Listing.RenamedListings
import AsmExplorer.Proofs.Text.Utf8

/-!
# What demangling changes

A demangler is run on the listing before it is parsed, so the parser sees the new names.

* `CompilerInfo.Demangles` : a compiler leaves a listing of a file, and its demangler renames the
  words of each line.
* `CompilerInfo.demangling_renames` : the lines that a compilation returns with demangling and
  without.  **Names that are words again change the text only.**  Other names, such as
  `square(int)`, leave the lines that define no label as they are, where no library code is hidden.
* `CompilerInfo.library_function_uncovered` : a label with such a name is a label no more.  It is
  shown as an instruction, and what follows it is taken for a part of the function before.
-/

namespace AsmExplorer

namespace CompilerInfo

variable {info : CompilerInfo} {m : Machine} {settings : CompilationInfo} {filters : FilterOptions}
  {file : Path} {ρ : Gas.Renaming} {listing readable : List Char}

/-! ### Compiling -/

/-- Where a compiler is told to write its listing of a file. -/
def outputOf (m : Machine) (file : Path) : Path :=
  listingPath (FileTree.pathOf (scratchNames m.files)) file

/-- The run of a compiler on a file, with a scratch directory for its listing. -/
def compilerRun (info : CompilerInfo) (m : Machine) (settings : CompilationInfo)
    (filters : FilterOptions) (file : Path) : Except IoFault ProgramOutput × Machine :=
  Machine.run { m with files := m.files.insert (scratchNames m.files) .directory } info.exe
    (info.arguments settings filters file (outputOf m file)) info.env []

/-- A compiler of GNU listings ends well and leaves a listing of a file, and its demangler makes
another text of the listing, by renaming the words of each line. -/
structure Demangles (info : CompilerInfo) (m : Machine) (settings : CompilationInfo)
    (filters : FilterOptions) (file : Path) (ρ : Gas.Renaming) (listing readable : List Char) :
    Prop where
  kind_ne : info.kind ≠ .msvc
  supported : info.supportsDemangle = true
  ends_well : (info.compilerRun m settings filters file).1.toOption.any ProgramOutput.success = true
  leaves : ∃ bytes, (info.compilerRun m settings filters file).2.files.read
    (info.compilerRun m settings filters file).2.cwd (outputOf m file) = .ok bytes ∧
      Text.decodeLossy bytes = listing
  readable_eq : (info.demangle (info.compilerRun m settings filters file).2 listing).1 = readable
  renames : Gas.Renames ρ listing readable

theorem linesOf_demangle (info : CompilerInfo) (filters : FilterOptions) (demangle : Bool)
    (file : Path) (listing : List Char) :
    info.linesOf { filters with demangle } file listing = info.linesOf filters file listing := by
  unfold linesOf CompilerKind.parse
  cases info.kind <;> rfl

namespace Demangles

variable (h : info.Demangles m settings filters file ρ listing readable)
include h

/-- A compilation returns the lines of the text that the demangler makes, if it is used, and those
of the listing if not. -/
theorem compile_eq (demangle : Bool) :
    (info.compile m settings { filters with demangle } file).1 =
      .ok (info.linesOf filters file (if demangle then readable else listing)) := by
  have hends := h.ends_well
  obtain ⟨bytes, hread, hbytes⟩ := h.leaves
  have hreadable := h.readable_eq
  -- The compiler is run in the same way, whether its listing is demangled afterwards or not.
  have hrun : Machine.run { m with files := m.files.insert (scratchNames m.files) .directory }
      info.exe (info.arguments settings { filters with demangle } file (outputOf m file)) info.env
        [] = info.compilerRun m settings filters file := rfl
  rw [outputOf] at hrun hread
  simp only [compile, compileTo, hrun]
  generalize info.compilerRun m settings filters file = ran at hends hread hreadable ⊢
  obtain ⟨result, after⟩ := ran
  cases result with
  | error fault => cases hends
  | ok out =>
    have hsuccess : out.success = true := hends
    dsimp only at hread hreadable ⊢
    rw [if_pos hsuccess, readListing, hread]
    cases demangle with
    | false => simp [hbytes, linesOf_demangle]
    | true => simp [hbytes, h.supported, hreadable, linesOf_demangle]

theorem parse_eq (text : List Char) :
    info.kind.parse text filters = Gas.parse text filters := by
  have hkind := h.kind_ne
  cases hcase : info.kind with
  | msvc => exact absurd hcase hkind
  | gcc | clangCl => rfl

/-- Lines with the same sources have the same sources when seen from the directory of the file. -/
theorem map_source_linesOf
    (hsource : (Gas.parse readable filters).map ParsedLine.source =
      (Gas.parse listing filters).map ParsedLine.source) :
    (info.linesOf filters file readable).map ParsedLine.source =
      (info.linesOf filters file listing).map ParsedLine.source := by
  rw [linesOf, linesOf, h.parse_eq, h.parse_eq]
  cases file.parent? with
  | none => exact hsource
  | some directory =>
    have hanchor (lines : List ParsedLine) :
        (lines.map (ParsedLine.anchor directory)).map ParsedLine.source =
          (lines.map ParsedLine.source).map fun source =>
            (ParsedLine.anchor directory { text := "", source }).source := by
      rw [List.map_map, List.map_map]
      rfl
    dsimp only
    rw [hanchor, hanchor, hsource]

end Demangles

/-! ### A machine with a demangler -/

/-- A program that writes a text to the path in its third argument. -/
def writer (text : List Char) : Tool := fun p =>
  match p.files.write p.cwd (.ofText (p.args.getD 2 "")) false (Text.utf8 text) with
  | .ok files => { p.complete true with files }
  | .error _ => { p.complete true with ending := .exited 1 }

/-- A program that writes its input with all words renamed. -/
def renamer (ρ : Gas.Renaming) : Tool := fun p =>
  (p.complete true).say (ρ.text (Text.decodeLossy p.stdin))

/-- A machine with a compiler that writes a listing, and a demangler. -/
def demanglingMachine (listing : List Char) (ρ : Gas.Renaming) : Machine where
  files := ⟨[([Text.bytes "tmp"], .directory), ([Text.bytes "gcc"], .program "gcc"),
    ([Text.bytes "c++filt"], .program "c++filt")]⟩
  cwd := []
  env := []
  programs name := if name = "gcc" then some (writer listing) else some (renamer ρ)

/-- The compiler of that machine. -/
def demanglingCompiler : CompilerInfo :=
  { ofKind "gcc" .gcc (.ofText "/gcc") with demangler := some (.ofText "/c++filt") }

theorem eq_ok_of_toOption {ε α : Type} {x : Except ε α} {a : α} (h : x.toOption = some a) :
    x = .ok a := by
  cases x with
  | error e => cases h
  | ok b => exact congrArg Except.ok (Option.some.inj h)

/-- The demangler of that machine renames the words of its input. -/
theorem demangle_of_lookup {after : Machine} (henv : after.env = [])
    (hprogram : after.programs "c++filt" = some (renamer ρ))
    (hlookup : (after.files.lookup after.cwd (.ofText "/c++filt")).toOption =
      some ([Text.bytes "c++filt"], .program "c++filt")) (listing : List Char) :
    (demanglingCompiler.demangle after listing).1 = ρ.text listing := by
  have hat : after.programAt (.ofText "/c++filt") = .ok (renamer ρ) := by
    simp only [Machine.programAt, eq_ok_of_toOption hlookup, bind, Except.bind, hprogram]
  have hslash : Path.slash ∈ (Path.ofText "/c++filt").bytes := by decide +kernel
  have hne : (Path.ofText "/c++filt").bytes ≠ [] := by decide
  have hzero : (0 : UInt8) ∉ (Path.ofText "/c++filt").bytes := by decide
  have hlength : (Path.ofText "/c++filt").bytes.length ≤ Machine.maxArgument := by decide
  have hstart : after.start (.ofText "/c++filt") [] [] listing = .ok (renamer ρ
      { name := (Path.ofText "/c++filt").display, args := [], env := [], cwd := after.cwd
        stdin := Text.utf8 listing, files := after.files }) := by
    simp [Machine.start, Machine.extendEnv, henv, hne, hzero, hslash, hat, hlength, bind,
      Except.bind]
  have hstdout : (renamer ρ
      { name := (Path.ofText "/c++filt").display, args := [], env := [], cwd := after.cwd
        stdin := Text.utf8 listing, files := after.files }).bytes .output =
      Text.utf8 (ρ.text listing) := by
    simp [renamer, Process.complete, Completion.say, Completion.bytes, Text.decodeLossy_utf8]
  simp only [demangle, demanglingCompiler, Machine.run, ofKind, hstart, Machine.outcome, hstdout,
    Text.decodeLossy_utf8, String.toList_ofList]
  rfl

theorem programs_run (m : Machine) (program : Path) (args : List String)
    (env : List (String × String)) (stdin : List Char) :
    (m.run program args env stdin).2.programs = m.programs := by
  unfold Machine.run
  split <;> rfl

theorem env_run (m : Machine) (program : Path) (args : List String)
    (env : List (String × String)) (stdin : List Char) :
    (m.run program args env stdin).2.env = m.env := by
  unfold Machine.run
  split <;> rfl

/-- The run of that compiler on a file. -/
abbrev demanglingRun (listing : List Char) (ρ : Gas.Renaming) (filters : FilterOptions)
    (file : Path) : Except IoFault ProgramOutput × Machine :=
  demanglingCompiler.compilerRun (demanglingMachine listing ρ) {} filters file

/-- That compiler leaves the listing, and its demangler renames it, where their files are found. -/
theorem demangles_demanglingMachine
    (hends : (demanglingRun listing ρ filters file).1.toOption.any ProgramOutput.success = true)
    (hread : ((demanglingRun listing ρ filters file).2.files.read
      (demanglingRun listing ρ filters file).2.cwd
        (outputOf (demanglingMachine listing ρ) file)).toOption = some (Text.utf8 listing))
    (hlookup : ((demanglingRun listing ρ filters file).2.files.lookup
      (demanglingRun listing ρ filters file).2.cwd (.ofText "/c++filt")).toOption =
        some ([Text.bytes "c++filt"], .program "c++filt"))
    (hrenames : Gas.Renames ρ listing (ρ.text listing)) :
    demanglingCompiler.Demangles (demanglingMachine listing ρ) {} filters file ρ listing
      (ρ.text listing) where
  kind_ne := by decide
  supported := rfl
  ends_well := hends
  leaves := by
    have hok := eq_ok_of_toOption hread
    unfold demanglingRun at hok
    exact ⟨Text.utf8 listing, hok, Text.decodeLossy_utf8 listing⟩
  readable_eq := demangle_of_lookup (env_run _ _ _ _ _) (congrFun (programs_run _ _ _ _ _) _)
    hlookup listing
  renames := hrenames

theorem distinguishes_of_used (h : ∀ line ∈ Text.lines listing, ∀ name ∈ Gas.label? line,
    ∀ other ∈ (Gas.survey (Text.lines listing)).used, ρ.text other = ρ.text name → other = name) :
    ρ.Distinguishes (Text.lines listing) :=
  fun line hmem name hname other hother =>
    h line hmem name hname other (Gas.mem_used_survey.2 hother)

/-- Renames a function to a word. -/
def squareName : Gas.Renaming :=
  .single "_Z6squarei".toList "square".toList (by decide +kernel) (by decide +kernel)
    (by decide +kernel) (by decide +kernel)

theorem plain_squareName : squareName.Plain :=
  Gas.Renaming.plain_single (by decide +kernel) (by decide +kernel) (by decide +kernel)

/-- A function that calls another. -/
def squareListing : List Char :=
  ".file 1 \"a.c\"\n.globl main\nmain:\n.loc 1 2\n call _Z6squarei\n_Z6squarei:\n ret\n".toList

theorem renames_square :
    Gas.Renames squareName squareListing (squareName.text squareListing) where
  lines_eq := by decide +kernel
  files := by
    unfold Gas.Renaming.KeepsFiles
    decide +kernel

theorem distinguishes_square : squareName.Distinguishes (Text.lines squareListing) :=
  distinguishes_of_used (by decide +kernel)

/-- Renames a function to a name with the types of its arguments. -/
def helperName : Gas.Renaming :=
  .single "_Z6helperi".toList "helper(int)".toList (by decide +kernel) (by decide +kernel)
    (by decide +kernel) (by decide +kernel)

/-- A function of the main file that calls one of a library. -/
def helperListing : List Char :=
  ".file \"a.c\"\n.file 1 \"a.c\"\n.file 2 \"b.h\"\n.globl main\nmain:\n".toList ++
    ".loc 1 2\n call _Z6helperi\n_Z6helperi:\n.loc 2 9\n ret\n".toList

theorem renames_helper :
    Gas.Renames helperName helperListing (helperName.text helperListing) where
  lines_eq := by decide +kernel
  files := by
    unfold Gas.Renaming.KeepsFiles
    decide +kernel

theorem distinguishes_helper : helperName.Distinguishes (Text.lines helperListing) :=
  distinguishes_of_used (by decide +kernel)

/-! ### Lines with demangling and without -/

/-- **What demangling changes.**  A compilation returns the lines of the listing, or with demangling
those of the renamed listing.  Where no library code is hidden, a line that defines no label before
or after is shown in both or in neither, with the same place.  A line that defines a label, which is
none under its new name, is an instruction afterwards.  If the new names are words again, and no
label gets the new name of another name, then under any filters the lines shown are those at the
same positions, and they have the same sources. -/
theorem demangling_renames (h : info.Demangles m settings filters file ρ listing readable) :
    (info.compile m settings { filters with demangle := false } file).1 =
        .ok (info.linesOf filters file listing) ∧
      (info.compile m settings { filters with demangle := true } file).1 =
        .ok (info.linesOf filters file readable) ∧
      (filters.libraryCode = false →
        ∃ kept kept', Gas.Shows filters listing kept ∧ Gas.Shows filters readable kept' ∧
          ∀ i line, (Text.lines listing)[i]? = some line →
            Gas.label? line = none → Gas.label? (ρ.text line) = none →
              (i ∈ kept' ↔ i ∈ kept) ∧
              ∀ loc, Gas.Attributed (Text.lines readable) i loc ↔
                Gas.Attributed (Text.lines listing) i loc) ∧
      (∀ line ∈ Text.lines listing, ∀ name, Gas.label? line = some name →
        (Text.trimStart line).head? ≠ some '.' → Gas.label? (ρ.text line) = none →
          Gas.classify (ρ.text line) = .instruction) ∧
      (ρ.Plain → ρ.Distinguishes (Text.lines listing) →
        ∃ kept, Gas.Shows filters listing kept ∧ Gas.Shows filters readable kept ∧
          (info.linesOf filters file readable).map ParsedLine.source =
            (info.linesOf filters file listing).map ParsedLine.source) := by
  refine ⟨h.compile_eq false, h.compile_eq true, h.renames.exists_shows, ?_, ?_⟩
  · intro line _ name hname hdot hlost
    exact Gas.Renaming.classify_text_eq_instruction hdot hname hlost
  · intro hplain hdistinct
    obtain ⟨kept, hlisting, hreadable, hsource⟩ :=
      h.renames.exists_shows_plain hplain hdistinct filters
    exact ⟨kept, hlisting, hreadable, h.map_source_linesOf hsource⟩

/-- The function called is shown under its new name, and nothing else changes. -/
theorem square_renamed :
    demanglingCompiler.Demangles (demanglingMachine squareListing squareName) {} {}
        (.ofText "/a.c") squareName squareListing (squareName.text squareListing) ∧
      squareName.Plain ∧ squareName.Distinguishes (Text.lines squareListing) ∧
      (demanglingCompiler.compile (demanglingMachine squareListing squareName) {}
          { demangle := false } (.ofText "/a.c")).1 = .ok
        (demanglingCompiler.linesOf {} (.ofText "/a.c") squareListing) ∧
      (demanglingCompiler.compile (demanglingMachine squareListing squareName) {}
          { demangle := true } (.ofText "/a.c")).1 = .ok
        (demanglingCompiler.linesOf {} (.ofText "/a.c") (squareName.text squareListing)) ∧
      (∃ kept, Gas.Shows {} squareListing kept ∧
        Gas.Shows {} (squareName.text squareListing) kept ∧
        (demanglingCompiler.linesOf {} (.ofText "/a.c") (squareName.text squareListing)).map
            ParsedLine.source =
          (demanglingCompiler.linesOf {} (.ofText "/a.c") squareListing).map ParsedLine.source) ∧
      (demanglingCompiler.linesOf {} (.ofText "/a.c") (squareName.text squareListing)).map
          ParsedLine.text =
        ["main:", " call square", "square:", " ret"] := by
  have hdemangles : demanglingCompiler.Demangles (demanglingMachine squareListing squareName) {} {}
      (.ofText "/a.c") squareName squareListing (squareName.text squareListing) :=
    demangles_demanglingMachine (by decide +kernel) (by decide +kernel) (by decide +kernel)
      renames_square
  obtain ⟨hoff, hon, -, -, hplain⟩ := demangling_renames hdemangles
  exact ⟨hdemangles, plain_squareName, distinguishes_square, hoff, hon,
    hplain plain_squareName distinguishes_square, by decide +kernel⟩

/-- The library function is hidden under its old name.  Its label is none under the new name: it is
shown as an instruction of the function before, and so are the instructions after it. -/
theorem library_function_uncovered :
    demanglingCompiler.Demangles (demanglingMachine helperListing helperName) {}
        { libraryCode := true } (.ofText "/a.c") helperName helperListing
        (helperName.text helperListing) ∧
      helperName.Distinguishes (Text.lines helperListing) ∧
      (demanglingCompiler.compile (demanglingMachine helperListing helperName) {}
          { libraryCode := true, demangle := false } (.ofText "/a.c")).1 = .ok
        [{ text := "main:", source := none },
          { text := " call _Z6helperi", source := some ⟨.ofText "/a.c", 2, none⟩ }] ∧
      (demanglingCompiler.compile (demanglingMachine helperListing helperName) {}
          { libraryCode := true, demangle := true } (.ofText "/a.c")).1 = .ok
        [{ text := "main:", source := none },
          { text := " call helper(int)", source := some ⟨.ofText "/a.c", 2, none⟩ },
          { text := "helper(int):", source := some ⟨.ofText "/a.c", 2, none⟩ },
          { text := " ret", source := some ⟨.ofText "/b.h", 9, none⟩ }] := by
  have hdemangles : demanglingCompiler.Demangles (demanglingMachine helperListing helperName) {}
      { libraryCode := true } (.ofText "/a.c") helperName helperListing
      (helperName.text helperListing) :=
    demangles_demanglingMachine (by decide +kernel) (by decide +kernel) (by decide +kernel)
      renames_helper
  refine ⟨hdemangles, distinguishes_helper, ?_, ?_⟩
  · rw [hdemangles.compile_eq false]
    refine congrArg Except.ok ?_
    decide +kernel
  · rw [hdemangles.compile_eq true]
    refine congrArg Except.ok ?_
    decide +kernel

end CompilerInfo

end AsmExplorer
