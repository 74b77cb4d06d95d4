import AsmExplorer.Proofs.Compiler.Changes
import AsmExplorer.Proofs.Path.Names
import AsmExplorer.Proofs.Text.Decoding

/-!
# Which compiler a build system gets

A build system says by its path which compiler builds a file.  The compiler is kept under a name
made of its file name, and a name that is taken stays with its compiler.  So the name decides:

* `Path.map_lossy_fileName?_eq` : paths of one name show one file name, and so they have one kind
  (`CompilerKind.detect_eq_of_compilerName_eq`).
* `firstReported?` : the path that was reported first under a name.
* `firstNamed_offers` : this is the executable of the compiler under the name, as long as nothing
  but build systems uses such names.

Hence the last entry for a file gives it the compiler that was reported first
(`CompileManager.exists_hasCompiler_first`), and the choice of the build system is honoured exactly
if its path is the first one of its name (`CompileManager.compiler_honoured_iff`).
-/

namespace AsmExplorer

open BuildSystemCompileInfo (compilerName)

/-! ### Names -/

theorem Path.display_ne_lossy {p : Path} (hp : p.fileName? = none) (entry : EntryName) :
    Text.decodeLossy p.bytes ≠ Text.decodeLossy entry.bytes := by
  intro hsame
  have hslash : slash ∉ p.bytes := by
    rw [← Text.asciiChar_mem_decodeLossy_iff (by decide), hsame,
      Text.asciiChar_mem_decodeLossy_iff (by decide)]
    exact entry.slash_not_mem
  -- dots are shown for dots only
  have hne : ∀ dots : List Char, '\ufffd' ∉ dots → entry.bytes ≠ Text.utf8 dots →
      p.bytes ≠ Text.utf8 dots := by
    intro dots hdots hentry hbytes
    rw [hbytes, Text.decodeLossy_utf8] at hsame
    exact hentry (Text.eq_utf8_of_decodeLossy_eq hsame.symm hdots)
  have hname : p.fileName? = some p.bytes := by
    have hcomponents := components_mk ⟨p.bytes, hne [] (by decide) entry.ne_nil,
      hne ['.'] (by decide) entry.ne_here, hne ['.', '.'] (by decide) entry.ne_up, hslash⟩
    rw [fileName?_eq_some_iff]
    exact congrArg List.getLast? hcomponents
  rw [hp] at hname
  cases hname

theorem Path.map_lossy_fileName?_eq {p q : Path} (h : compilerName p = compilerName q) :
    p.fileName?.map Text.lossy = q.fileName?.map Text.lossy := by
  have hnameless {p q : Path} {name : List UInt8} (hp : p.fileName? = some name)
      (hq : q.fileName? = none) : Text.lossy name ≠ q.display := by
    intro hshown
    obtain ⟨entry, rfl⟩ := exists_entryName_of_name hp
    exact display_ne_lossy hq entry (String.ofList_injective hshown.symm)
  unfold compilerName at h
  have hshown := (String.append_right_inj _).1 h
  cases hp : p.fileName? with
  | none =>
    cases hq : q.fileName? with
    | none => rfl
    | some name =>
      rw [hp, hq] at hshown
      exact absurd hshown.symm (hnameless hq hp)
  | some name =>
    cases hq : q.fileName? with
    | none =>
      rw [hp, hq] at hshown
      exact absurd hshown (hnameless hp hq)
    | some other =>
      rw [hp, hq] at hshown
      exact congrArg some hshown

theorem Path.map_lossy_fileStem? (p : Path) :
    p.fileStem?.map Text.lossy = (p.fileName?.map Text.lossy).map fun shown =>
      String.ofList (splitName '.' shown.toList).1 := by
  rw [fileStem?, Option.map_map, Option.map_map]
  refine congrArg (Option.map · _) (funext fun name => ?_)
  have hdot : dot < 0x80 := by decide
  have hstem : (splitName '.' (Text.decodeLossy name)).1 =
      Text.decodeLossy (splitName dot name).1 :=
    fst_splitName_map (fun _ => Text.decodeLossy_eq_nil_iff) (Text.splitLast_decodeLossy hdot name)
  simp only [Function.comp_apply, Text.lossy, String.toList_ofList]
  exact congrArg String.ofList hstem.symm

theorem CompilerKind.detect_eq_of_compilerName_eq {p q : Path}
    (h : compilerName p = compilerName q) : CompilerKind.detect p = CompilerKind.detect q := by
  have hstem : p.fileStem?.map Text.lossy = q.fileStem?.map Text.lossy := by
    rw [Path.map_lossy_fileStem?, Path.map_lossy_fileStem?, Path.map_lossy_fileName?_eq h]
  have hshown (p : Path) : Text.decodeLossy (p.fileStem?.getD []) =
      (p.fileStem?.map Text.lossy).elim [] String.toList := by
    cases p.fileStem? with
    | none => rfl
    | some stem => exact String.toList_ofList.symm
  rw [detect, detect, hshown, hshown, hstem]

/-! ### Reports -/

/-- The paths of the compilers that a build system reports. -/
def ManagerCall.reports : ManagerCall → List Path
  | apply _ _ entries => entries.map fun (_, reported) => reported.compilerPath
  | _ => []

/-- Whether a call leaves the names of a build system's compilers to the build system. -/
def ManagerCall.LeavesNames : ManagerCall → Prop
  | add info => ∀ path, info.name ≠ compilerName path
  | setInfo _ info => ∀ path, info.compilerName ≠ compilerName path
  | _ => True

/-- The path among `paths` that is reported first under the name of `path`. -/
def firstReported? (paths : List Path) (path : Path) : Option Path :=
  paths.find? fun other => compilerName other = compilerName path

variable {paths : List Path} {path first : Path} {calls : List ManagerCall}

theorem exists_firstReported? (h : path ∈ paths) :
    ∃ first, firstReported? paths path = some first := by
  rw [← Option.isSome_iff_exists, firstReported?, List.find?_isSome]
  exact ⟨path, h, by simp⟩

theorem compilerName_firstReported? (h : firstReported? paths path = some first) :
    compilerName first = compilerName path := by
  simpa using List.find?_some h

/-- A call offers under a name what it reports first under that name. -/
theorem ManagerCall.LeavesNames.firstNamed_offers {call : ManagerCall} (h : call.LeavesNames)
    (path : Path) :
    (firstNamed call.offers (compilerName path)).map
        (fun compiler => (compiler.exe, compiler.kind)) =
      (firstReported? call.reports path).map fun first => (first, CompilerKind.detect first) := by
  cases call with
  | add info =>
    have hname : info.name ≠ compilerName path := h path
    simp [ManagerCall.offers, ManagerCall.reports, firstNamed, firstReported?, hname]
  | setInfo _ _ | setDefault _ | setFilters _ => rfl
  | apply files cwd entries =>
    simp only [ManagerCall.offers, ManagerCall.reports, firstNamed, firstReported?,
      List.find?_map, Option.map_map]
    rfl

/-- **The compiler under a name is the one that was reported first.** -/
theorem firstNamed_offers (hcalls : ∀ call ∈ calls, call.LeavesNames) (path : Path) :
    (firstNamed (calls.flatMap ManagerCall.offers) (compilerName path)).map
        (fun compiler => (compiler.exe, compiler.kind)) =
      (firstReported? (calls.flatMap ManagerCall.reports) path).map
        fun first => (first, CompilerKind.detect first) := by
  induction calls with
  | nil => rfl
  | cons call calls ih =>
    rw [List.forall_mem_cons] at hcalls
    have hcall := hcalls.1.firstNamed_offers path
    have hrest := ih hcalls.2
    rw [firstNamed, firstReported?] at hcall hrest ⊢
    rw [List.flatMap_cons, List.flatMap_cons, List.find?_append, List.find?_append, Option.map_or,
      Option.map_or, hcall, hrest]

/-- Settings that name a compiler of a build system come with one. -/
theorem exists_offer_of_mem_stores (hcalls : ∀ call ∈ calls, call.LeavesNames)
    {entry : Path × CompilationInfo} (hentry : entry ∈ calls.flatMap ManagerCall.stores)
    (hname : entry.2.compilerName = compilerName path) :
    ∃ info ∈ calls.flatMap ManagerCall.offers, info.name = compilerName path := by
  obtain ⟨call, hcall, hentry⟩ := List.mem_flatMap.1 hentry
  cases call with
  | add _ | setDefault _ | setFilters _ => cases hentry
  | setInfo file info =>
    obtain rfl : entry = (file, info) := List.mem_singleton.1 hentry
    exact absurd hname (hcalls _ hcall path)
  | apply files cwd entries =>
    obtain ⟨⟨file, reported⟩, hreported, rfl⟩ := List.mem_map.1 hentry
    exact ⟨reported.compiler files cwd,
      List.mem_flatMap.2 ⟨_, hcall, List.mem_map.2 ⟨_, hreported, rfl⟩⟩, hname⟩

namespace CompileManager

/-! ### The compiler in force -/

/-- The compiler that builds a file. -/
def compilerFor? (m : CompileManager) (file : Path) : Option CompilerInfo :=
  m.compiler? (m.database.getOrDefault file).1.compilerName

theorem compilerFor?_of_info? {m : CompileManager} {file : Path} {settings : CompilationInfo}
    (h : m.info? file = some settings) :
    m.compilerFor? file = m.compiler? settings.compilerName := by
  rw [info?] at h
  rw [compilerFor?, CompileInfoDatabase.getOrDefault, h]

/-- Whether the settings of a file name a compiler with this executable and of this kind. -/
def HasCompiler (m : CompileManager) (file exe : Path) (kind : CompilerKind) : Prop :=
  ∃ settings compiler, m.info? file = some settings ∧
    m.compiler? settings.compilerName = some compiler ∧ compiler.exe = exe ∧ compiler.kind = kind

namespace HasCompiler

variable {m : CompileManager} {file exe exe' : Path} {kind kind' : CompilerKind}

theorem exe_eq (h : m.HasCompiler file exe kind) (h' : m.HasCompiler file exe' kind') :
    exe = exe' := by
  obtain ⟨settings, compiler, hsettings, hcompiler, rfl, -⟩ := h
  obtain ⟨settings', compiler', hsettings', hcompiler', rfl, -⟩ := h'
  obtain rfl := Option.some.inj (hsettings.symm.trans hsettings')
  rw [Option.some.inj (hcompiler.symm.trans hcompiler')]

theorem map_exe_compilerFor? (h : m.HasCompiler file exe kind) :
    (m.compilerFor? file).map CompilerInfo.exe = some exe := by
  obtain ⟨settings, compiler, hsettings, hcompiler, rfl, -⟩ := h
  rw [compilerFor?_of_info? hsettings, hcompiler, Option.map_some]

end HasCompiler

/-- Whether the compiler that a build system says for a file is honoured. -/
structure Honours (m : CompileManager) (files : FileTree) (cwd : Names)
    (entries : List (Path × BuildSystemCompileInfo)) (file path : Path) : Prop where
  /-- The file has the compiler at this path, of the kind detected from it. -/
  hasCompiler : (m.apply files cwd entries).1.HasCompiler file path (CompilerKind.detect path)
  /-- If the executable was another one before, the file is among those that changed. -/
  exists_reported : (m.compilerFor? file).map CompilerInfo.exe ≠ some path →
    ∃ other ∈ (m.apply files cwd entries).2, other.normalize = file.normalize

/-- Whether an entry is the last one for its file, under any spelling. -/
def IsLastEntry (entries : List (Path × BuildSystemCompileInfo)) (file : Path)
    (reported : BuildSystemCompileInfo) : Prop :=
  ∃ before after, entries = before ++ (file, reported) :: after ∧
    ∀ entry ∈ after, entry.1.normalize ≠ file.normalize

variable (filters : FilterOptions) (files : FileTree) (cwd : Names)
  {entries : List (Path × BuildSystemCompileInfo)} {file : Path}
  {reported : BuildSystemCompileInfo}

/-- The last entry for a file names the compiler of the file. -/
theorem IsLastEntry.info?_apply (h : IsLastEntry entries file reported) (m : CompileManager) :
    (m.apply files cwd entries).1.info? file = some (m.settingsFrom reported) := by
  obtain ⟨before, after, rfl, hafter⟩ := h
  have hstored : m.stored (before ++ (file, reported) :: after) file =
      m.stored before file ++ [m.settingsFrom reported] := by
    have hnone : after.filter (fun entry => entry.1.normalize = file.normalize) = [] :=
      List.filter_eq_nil_iff.2 fun entry hentry => by simpa using hafter entry hentry
    rw [stored, stored, List.filter_append, List.filter_cons_of_pos (by simp), hnone,
      List.map_append]
    rfl
  rw [CompileManager.info?_apply, hstored]
  simp

theorem IsLastEntry.mem (h : IsLastEntry entries file reported) : (file, reported) ∈ entries := by
  obtain ⟨before, after, rfl, -⟩ := h
  simp

theorem Records.keptName_eq {m : CompileManager} {offered : List CompilerInfo}
    {stored : List (Path × CompilationInfo)} (h : Records m offered stored) (name : String) :
    m.keptName name = name := by
  rw [keptName, h.compiler?_eq]
  cases hfirst : firstNamed offered name with
  | none => rfl
  | some info => exact firstNamed_name hfirst

/-- Where the compiler is another one than before, the file is among those that changed. -/
theorem exists_reported_of_compilerFor?_ne (hcalls : ∀ call ∈ calls, call.LeavesNames)
    (hlast : IsLastEntry entries file reported)
    (hne : ((run { filters } calls).apply files cwd entries).1.compilerFor? file ≠
      (run { filters } calls).compilerFor? file) :
    ∃ other ∈ ((run { filters } calls).apply files cwd entries).2,
      other.normalize = file.normalize := by
  have hrecords := records_run filters calls
  have hafter := hlast.info?_apply files cwd (run { filters } calls)
  refine exists_reported_of_ne fun hsame => hne ?_
  -- the settings were stored before, and their compiler was offered with them
  have hbefore := hsame.symm.trans hafter
  have hstored := hrecords.info?_eq file
  rw [hbefore, lastFor] at hstored
  obtain ⟨entry, hentry, hsettings⟩ := Option.map_eq_some_iff.1 hstored.symm
  have hname : entry.2.compilerName = compilerName reported.compilerPath := by
    rw [hsettings]
    exact hrecords.keptName_eq _
  have hoffer := exists_offer_of_mem_stores hcalls
    (List.mem_reverse.1 (List.mem_of_find?_eq_some hentry)) hname
  obtain ⟨compiler, hcompiler⟩ := Option.isSome_iff_exists.1 (isSome_firstNamed_iff.2 hoffer)
  rw [← hrecords.compiler?_eq, ← hname, hsettings] at hcompiler
  rw [compilerFor?_of_info? hafter, compilerFor?_of_info? hbefore, hcompiler]
  exact hrecords.compiler?_run hcompiler [ManagerCall.apply files cwd entries]

/-- The last entry for a file gives it the compiler that was reported first under that name. -/
theorem exists_hasCompiler_first (hcalls : ∀ call ∈ calls, call.LeavesNames)
    (hlast : IsLastEntry entries file reported) :
    ∃ first,
      firstReported? ((calls ++ [ManagerCall.apply files cwd entries]).flatMap ManagerCall.reports)
        reported.compilerPath = some first ∧
      ((run { filters } calls).apply files cwd entries).1.HasCompiler file first
        (CompilerKind.detect reported.compilerPath) := by
  set all := calls ++ [ManagerCall.apply files cwd entries] with hall
  have hrun : ((run { filters } calls).apply files cwd entries).1 = run { filters } all := by
    rw [hall, run, run, List.foldl_append]
    rfl
  have hleaves : ∀ call ∈ all, call.LeavesNames := by
    intro call hcall
    rcases List.mem_append.1 hcall with hcall | hcall
    · exact hcalls call hcall
    · rw [List.mem_singleton.1 hcall]
      trivial
  have hmem : reported.compilerPath ∈ all.flatMap ManagerCall.reports :=
    List.mem_flatMap.2 ⟨.apply files cwd entries, by simp [hall],
      List.mem_map.2 ⟨_, hlast.mem, rfl⟩⟩
  obtain ⟨first, hfirst⟩ := exists_firstReported? hmem
  have hoffered := firstNamed_offers hleaves reported.compilerPath
  rw [hfirst, Option.map_some] at hoffered
  obtain ⟨compiler, hcompiler, hkept⟩ := Option.map_eq_some_iff.1 hoffered
  obtain ⟨hexe, hkind⟩ := Prod.mk.inj hkept
  rw [CompilerKind.detect_eq_of_compilerName_eq (compilerName_firstReported? hfirst)] at hkind
  rw [← (records_run filters all).compiler?_eq, ← hrun,
    ← (records_run filters calls).keptName_eq (compilerName reported.compilerPath)] at hcompiler
  exact ⟨first, hfirst, _, compiler, hlast.info?_apply files cwd _, hcompiler, hexe, hkind⟩

/-- **A file gets the compiler that a build system says exactly if that is the first one of its
name.**  The kind is the right one in any case. -/
theorem compiler_honoured_iff (hcalls : ∀ call ∈ calls, call.LeavesNames)
    (hlast : IsLastEntry entries file reported) :
    ∃ first,
      firstReported? ((calls ++ [ManagerCall.apply files cwd entries]).flatMap ManagerCall.reports)
        reported.compilerPath = some first ∧
      ((run { filters } calls).apply files cwd entries).1.HasCompiler file first
        (CompilerKind.detect reported.compilerPath) ∧
      ((run { filters } calls).Honours files cwd entries file reported.compilerPath ↔
        first = reported.compilerPath) := by
  obtain ⟨first, hfirst, hcompiler⟩ := exists_hasCompiler_first filters files cwd hcalls hlast
  refine ⟨first, hfirst, hcompiler, fun h => hcompiler.exe_eq h.hasCompiler, ?_⟩
  rintro rfl
  refine ⟨hcompiler, fun hbefore => ?_⟩
  refine exists_reported_of_compilerFor?_ne filters files cwd hcalls hlast fun hsame => hbefore ?_
  rw [← hsame, hcompiler.map_exe_compilerFor?]

/-- A report of one file. -/
def reportOf (file compilerPath : Path) : List (Path × BuildSystemCompileInfo) :=
  [(file, { compilerPath, args := ["-O1"] })]

/-- A compiler that comes last for a file is honoured, after others of other names. -/
theorem later_entry_honoured :
    (run {} [.apply ⟨[]⟩ [] (reportOf (.ofText "/a.c") (.ofText "/usr/bin/gcc"))]).Honours ⟨[]⟩ []
      (reportOf (.ofText "/b.c") (.ofText "/opt/bin/clang") ++
        reportOf (.ofText "/./b.c") (.ofText "/usr/bin/gcc"))
      (.ofText "/./b.c") (.ofText "/usr/bin/gcc") := by
  have hcalls : ∀ call ∈
      [ManagerCall.apply ⟨[]⟩ [] (reportOf (.ofText "/a.c") (.ofText "/usr/bin/gcc"))],
      call.LeavesNames := by
    simp [ManagerCall.LeavesNames]
  have hlast : IsLastEntry
      (reportOf (.ofText "/b.c") (.ofText "/opt/bin/clang") ++
        reportOf (.ofText "/./b.c") (.ofText "/usr/bin/gcc")) (.ofText "/./b.c")
      { compilerPath := .ofText "/usr/bin/gcc", args := ["-O1"] } :=
    ⟨reportOf (.ofText "/b.c") (.ofText "/opt/bin/clang"), [], rfl, by simp⟩
  obtain ⟨first, hfirst, -, hiff⟩ := compiler_honoured_iff {} ⟨[]⟩ [] hcalls hlast
  have hgcc : some first = some (.ofText "/usr/bin/gcc") := hfirst.symm.trans (by decide)
  exact hiff.2 (Option.some.inj hgcc)

/-- Of two compilers of one name the second one is ignored, and no change is reported. -/
theorem second_gcc_ignored :
    let m := run {} [.apply ⟨[]⟩ [] (reportOf (.ofText "/a.c") (.ofText "/usr/bin/gcc"))]
    let entries := reportOf (.ofText "/a.c") (.ofText "/opt/bin/gcc")
    (m.apply ⟨[]⟩ [] entries).2 = [] ∧
      ((m.apply ⟨[]⟩ [] entries).1.compilerFor? (.ofText "/a.c")).map CompilerInfo.exe =
        some (.ofText "/usr/bin/gcc") ∧
      ¬m.Honours ⟨[]⟩ [] entries (.ofText "/a.c") (.ofText "/opt/bin/gcc") := by
  have hnone : ((run {} [.apply ⟨[]⟩ []
      (reportOf (.ofText "/a.c") (.ofText "/usr/bin/gcc"))]).apply ⟨[]⟩ []
      (reportOf (.ofText "/a.c") (.ofText "/opt/bin/gcc"))).2 = [] := by
    decide
  refine ⟨hnone, by decide, fun hhonours => ?_⟩
  obtain ⟨other, hother, -⟩ := hhonours.exists_reported (by decide)
  rw [hnone] at hother
  exact List.not_mem_nil hother

end CompileManager

end AsmExplorer
