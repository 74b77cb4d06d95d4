import AsmExplorer.Compiler.Manager

/-!
# How a compilation ends

A compilation ends in one of three ways (`CompileManager.ends_compile`): the settings in force name
a compiler that nobody knows, and nothing is run; or the compiler leaves a listing, whose lines are
returned; or it fails.  The failure of a compiler is that of its program or of its listing
(`CompileError.IsOfRun`).  It never speaks about settings, so what a failure says about them, the
manager has said (`CompileManager.exists_wrap_of_compile`), and a compiler is said to be unknown
only if it is (`CompileManager.fails_notFound_iff`).
-/

namespace AsmExplorer

/-! ### Failures -/

namespace CompileError

/-- The failure is one of running a compiler or of reading its listing. -/
def IsOfRun : CompileError → Prop
  | compilerNotFound _ => False
  | underDefault _ => False
  | notAFile _ => False
  | spawn _ _ => True
  | failed _ _ _ => True
  | unreadable _ _ => True

/-- The failure is not said to have arisen under the settings for all other files. -/
def IsPlain : CompileError → Prop
  | underDefault _ => False
  | _ => True

/-- The failure is that of a compiler that nobody knows, under whatever settings. -/
def IsNotFound (name : String) (error : CompileError) : Prop :=
  error = .compilerNotFound name ∨ error = .underDefault (.compilerNotFound name)

variable {error : CompileError}

theorem isPlain_compilerNotFound (name : String) : (compilerNotFound name).IsPlain :=
  trivial

theorem IsOfRun.isPlain (h : error.IsOfRun) : error.IsPlain := by
  cases error with
  | underDefault inner => exact h
  | compilerNotFound _ | notAFile _ | spawn _ _ | failed _ _ _ | unreadable _ _ => trivial

theorem IsOfRun.ne_compilerNotFound (h : error.IsOfRun) (name : String) :
    error ≠ .compilerNotFound name := by
  rintro rfl
  exact h

end CompileError

namespace CompilerInfo

variable (info : CompilerInfo) (filters : FilterOptions) (file : Path)

/-- What a compiler leaves: the lines of some listing, or a failure of its run. -/
inductive Leaves : Except CompileError (List ParsedLine) → Prop where
  /-- The lines of a listing. -/
  | listing (text : List Char) : Leaves (.ok (info.linesOf filters file text))
  /-- A failure. -/
  | failure (error : CompileError) (h : error.IsOfRun) : Leaves (.error error)

variable (m : Machine) (settings : CompilationInfo)

theorem leaves_readListing (output : Path) :
    info.Leaves filters file (info.readListing m filters file output).1 := by
  unfold readListing
  split
  · exact .failure _ trivial
  · exact .listing _

theorem leaves_compileTo (output : Path) :
    info.Leaves filters file (info.compileTo m settings filters file output).1 := by
  unfold compileTo
  split
  · exact .failure _ trivial
  · split
    · exact leaves_readListing info filters file _ output
    · exact .failure _ trivial

theorem leaves_compile : info.Leaves filters file (info.compile m settings filters file).1 :=
  leaves_compileTo info filters file _ settings _

end CompilerInfo

/-! ### The manager -/

namespace CompileManager

variable (m : CompileManager) (machine : Machine) (file : Path)

/-- The settings in force for a file. -/
def settings : CompilationInfo :=
  (m.info? file).getD m.defaultInfo

/-- Whether a file has settings of its own. -/
def isStored : Bool :=
  (m.info? file).isSome

theorem getOrDefault_eq : m.database.getOrDefault file = (m.settings file, m.isStored file) := by
  rw [CompileInfoDatabase.getOrDefault, settings, isStored, info?]
  cases m.database.get? file <;> rfl

/-- The ways in which the compilation of a file ends. -/
inductive Ends : Except CompileError (List ParsedLine) × Machine → Prop where
  /-- The settings name no compiler that is known; the machine is not used. -/
  | unknown (h : m.compiler? (m.settings file).compilerName = none) :
    Ends (.error (wrap (m.isStored file) (.compilerNotFound (m.settings file).compilerName)),
      machine)
  /-- The compiler leaves a listing. -/
  | listed (info : CompilerInfo) (text : List Char) (machine' : Machine)
    (h : m.compiler? (m.settings file).compilerName = some info) :
    Ends (.ok (info.linesOf m.filters file text), machine')
  /-- The compiler fails. -/
  | broken (info : CompilerInfo) (error : CompileError) (machine' : Machine)
    (h : m.compiler? (m.settings file).compilerName = some info) (herror : error.IsOfRun) :
    Ends (.error (wrap (m.isStored file) error), machine')

/-- **How the compilation of a file ends.** -/
theorem ends_compile : m.Ends machine file (m.compile machine file) := by
  unfold compile
  rw [getOrDefault_eq]
  dsimp only
  cases hcompiler : m.compiler? (m.settings file).compilerName with
  | none => exact .unknown hcompiler
  | some info =>
    dsimp only
    have hleaves := info.leaves_compile m.filters file machine (m.settings file)
    generalize info.compile machine (m.settings file) m.filters file = outcome at hleaves ⊢
    obtain ⟨result, machine'⟩ := outcome
    dsimp only at hleaves ⊢
    cases hleaves with
    | listing text => exact .listed info text machine' hcompiler
    | failure error herror => exact .broken info error machine' hcompiler herror

variable {m machine file}

theorem compile_of_compiler?_eq_none (h : m.compiler? (m.settings file).compilerName = none) :
    m.compile machine file =
      (.error (wrap (m.isStored file) (.compilerNotFound (m.settings file).compilerName)),
        machine) := by
  have hends := m.ends_compile machine file
  generalize m.compile machine file = outcome at hends ⊢
  cases hends with
  | unknown _ => rfl
  | listed info text machine' hinfo =>
    rw [h] at hinfo
    cases hinfo
  | broken info error machine' hinfo _ =>
    rw [h] at hinfo
    cases hinfo

/-- A compilation fails with a failure that does not speak about settings, wrapped if the file has
none. -/
theorem exists_wrap_of_compile {machine' : Machine} {error : CompileError}
    (h : m.compile machine file = (.error error, machine')) :
    ∃ inner, inner.IsPlain ∧ error = wrap (m.isStored file) inner := by
  have hends := m.ends_compile machine file
  rw [h] at hends
  cases hends with
  | unknown hnone => exact ⟨_, CompileError.isPlain_compilerNotFound _, rfl⟩
  | broken info inner machine' hinfo hrun => exact ⟨inner, hrun.isPlain, rfl⟩

theorem isNotFound_wrap_iff {stored : Bool} {inner : CompileError} {name : String}
    (h : inner.IsPlain) : (wrap stored inner).IsNotFound name ↔ inner = .compilerNotFound name := by
  cases stored with
  | true =>
    refine ⟨fun hnotFound => hnotFound.resolve_right ?_, .inl⟩
    rintro rfl
    exact h
  | false =>
    refine ⟨fun hnotFound => ?_, fun heq => .inr (congrArg _ heq)⟩
    rcases hnotFound with hplain | hwrapped
    · cases hplain
    · exact CompileError.underDefault.inj hwrapped

/-- **An unknown compiler is the only reason to say so.** -/
theorem fails_notFound_iff {name : String} :
    (∃ error machine', m.compile machine file = (.error error, machine') ∧
        error.IsNotFound name) ↔
      (m.settings file).compilerName = name ∧ m.compiler? name = none := by
  constructor
  · rintro ⟨error, machine', hcompile, herror⟩
    have hends := m.ends_compile machine file
    rw [hcompile] at hends
    cases hends with
    | unknown hnone =>
      rw [isNotFound_wrap_iff (CompileError.isPlain_compilerNotFound _)] at herror
      rw [← CompileError.compilerNotFound.inj herror]
      exact ⟨rfl, hnone⟩
    | broken info inner machine' hinfo hrun =>
      rw [isNotFound_wrap_iff hrun.isPlain] at herror
      exact absurd herror (hrun.ne_compilerNotFound name)
  · rintro ⟨rfl, hnone⟩
    refine ⟨_, _, compile_of_compiler?_eq_none hnone, ?_⟩
    rw [isNotFound_wrap_iff (CompileError.isPlain_compilerNotFound _)]

end CompileManager

end AsmExplorer
