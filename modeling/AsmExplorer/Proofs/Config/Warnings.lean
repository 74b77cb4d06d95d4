import AsmExplorer.Proofs.Config.Manager

/-!
# Warnings predict failures

The warnings about a configuration and the manager that is built from it decide in different ways
whether a compiler is known: the warnings look among the names that are configured, and pass over
settings without a name, while the manager looks a name up, also an empty one.

* `Config.exists_unknownCompiler_mem_iff` : when the warnings speak of an unknown compiler.
* `LoadedConfig.IsLoaded` : a configuration that was read from a text or loaded from a file.

`LoadedConfig.warnings_predict` says what the warnings say about compilations.  Settings that name
no compiler are where the two decisions part: no warning speaks of them, and a file under such
settings is not compiled (`LoadedConfig.unnamed_compiler_not_found`).
-/

namespace AsmExplorer

namespace Config

variable {c : Config} {name : String}

theorem unknownCompiler_mem_checkSettings_iff {scope given : String} {info : CompilationInfo} :
    .unknownCompiler scope name ∈ c.checkSettings given info ↔
      scope = given ∧ name = info.compilerName ∧ name ≠ "" ∧ name ∉ c.compilerNames := by
  rw [checkSettings]
  split
  · rename_i hpassed
    refine ⟨fun h => absurd h List.not_mem_nil, ?_⟩
    rintro ⟨-, rfl, hne, hunknown⟩
    rcases hpassed with hempty | hknown
    · exact absurd hempty hne
    · exact absurd (List.contains_iff_mem.1 hknown) hunknown
  · rename_i hwarned
    obtain ⟨hne, hunknown⟩ := not_or.1 hwarned
    rw [List.mem_singleton, ConfigWarning.unknownCompiler.injEq]
    refine ⟨?_, fun ⟨hscope, hname, _⟩ => ⟨hscope, hname⟩⟩
    rintro ⟨rfl, rfl⟩
    exact ⟨rfl, rfl, hne, fun hmem => hunknown (List.contains_iff_mem.2 hmem)⟩

/-- The warnings speak of a compiler that is named by some settings but not configured. -/
theorem exists_unknownCompiler_mem_iff :
    (∃ scope, .unknownCompiler scope name ∈ c.warnings) ↔
      name ≠ "" ∧ name ∉ c.compilerNames ∧ ∃ info ∈ c.infos, info.compilerName = name := by
  simp only [warnings, infos, List.mem_append, List.mem_flatMap, List.mem_map, Option.mem_toList,
    unknownCompiler_mem_checkSettings_iff, reduceCtorEq, and_false, exists_false, false_or]
  constructor
  · rintro ⟨scope,
      ⟨info, hinfo, -, hname, hne, hunknown⟩ | ⟨entry, hentry, -, hname, hne, hunknown⟩⟩
    · exact ⟨hne, hunknown, info, .inl hinfo, hname.symm⟩
    · exact ⟨hne, hunknown, entry.info, .inr ⟨entry, hentry, rfl⟩, hname.symm⟩
  · rintro ⟨hne, hunknown, info, hdefault | ⟨entry, hentry, rfl⟩, rfl⟩
    · exact ⟨_, .inl ⟨info, hdefault, rfl, rfl, hne, hunknown⟩⟩
    · exact ⟨_, .inr ⟨entry, hentry, rfl, rfl, hne, hunknown⟩⟩

end Config

namespace LoadedConfig

/-- A configuration that was read from a text or loaded from a file. -/
inductive IsLoaded : LoadedConfig → Prop where
  /-- It was read from a text. -/
  | ofText {origin text : String} {loaded : LoadedConfig} (h : ofText origin text = .ok loaded) :
    IsLoaded loaded
  /-- It was loaded from a file. -/
  | load {files : FileTree} {cwd : Names} {path : Path} {loaded : LoadedConfig}
    (h : load files cwd path = .ok loaded) : IsLoaded loaded

variable {loaded : LoadedConfig}

/-- The warnings about a loaded configuration speak of its compilers and settings. -/
theorem IsLoaded.exists_unknownCompiler_mem_iff (h : loaded.IsLoaded) {name : String} :
    (∃ scope, .unknownCompiler scope name ∈ loaded.warnings) ↔
      name ≠ "" ∧ name ∉ loaded.config.compilerNames ∧
        ∃ info ∈ loaded.config.infos, info.compilerName = name := by
  cases h with
  | ofText htext =>
    obtain ⟨written, -, hconfig, hwarnings⟩ := exists_written_of_ofText htext
    rw [hwarnings, hconfig, Config.exists_unknownCompiler_mem_iff]
  | load hload =>
    obtain ⟨text, written, -, -, hconfig, hwarnings⟩ := exists_written_of_load hload
    rw [hwarnings, hconfig, Config.exists_unknownCompiler_mem_iff, Config.infos_seenFrom]
    rfl

/-- Nothing is said about settings whose compilers are configured, or that name none. -/
theorem IsLoaded.unknownCompiler_not_mem (h : loaded.IsLoaded)
    (hinfos : ∀ info ∈ loaded.config.infos,
      info.compilerName = "" ∨ info.compilerName ∈ loaded.config.compilerNames)
    (scope name : String) : .unknownCompiler scope name ∉ loaded.warnings := by
  intro hwarned
  obtain ⟨hne, hunknown, info, hinfo, rfl⟩ := h.exists_unknownCompiler_mem_iff.1 ⟨scope, hwarned⟩
  rcases hinfos info hinfo with hempty | hknown
  · exact hne hempty
  · exact hunknown hknown

/-! ### Compiling -/

variable {files : FileTree} {cwd : Names} {file : Path} {info : CompilationInfo}

/-- A compilation under given settings says that a compiler is unknown exactly if these name one
that is not configured. -/
theorem fails_notFound_manager_iff (hgiven : loaded.config.given? file = some info)
    {machine : Machine} {name : String} :
    (∃ error machine', (loaded.config.manager files cwd).compile machine file =
        (.error error, machine') ∧ error.IsNotFound name) ↔
      info.compilerName = name ∧ name ∉ loaded.config.compilerNames := by
  rw [CompileManager.fails_notFound_iff, loaded.config.settings_manager files cwd hgiven,
    Config.compiler?_manager_eq_none_iff]

/-- The failure under settings that name a compiler that is not configured. -/
theorem compile_manager_eq_notFound (hgiven : loaded.config.given? file = some info)
    (hname : info.compilerName ∉ loaded.config.compilerNames) (machine : Machine) :
    (loaded.config.manager files cwd).compile machine file =
      (.error (CompileManager.wrap (loaded.config.entryFor? file).isSome
        (.compilerNotFound info.compilerName)), machine) := by
  have hsettings := loaded.config.settings_manager files cwd hgiven
  have hnone : (loaded.config.manager files cwd).compiler?
      ((loaded.config.manager files cwd).settings file).compilerName = none := by
    rw [hsettings]
    exact (loaded.config.compiler?_manager_eq_none_iff files cwd).2 hname
  rw [CompileManager.compile_of_compiler?_eq_none hnone, hsettings, CompileManager.isStored,
    Config.info?_manager, Option.isSome_map]

/-- **Warnings predict failures.**  Let `info` be the settings that a configuration gives for a
file, by an entry or as the default.  Without warnings about unknown compilers, compiling the file
says that a compiler is unknown only if `info` names none and none is configured without a name, and
then it does.  With a warning about the compiler of `info` it says that this is unknown. -/
theorem warnings_predict (hloaded : loaded.IsLoaded)
    (hgiven : loaded.config.given? file = some info) (files : FileTree) (cwd : Names)
    (machine : Machine) :
    ((∀ scope name, .unknownCompiler scope name ∉ loaded.warnings) → ∀ name,
      (∃ error machine', (loaded.config.manager files cwd).compile machine file =
          (.error error, machine') ∧ error.IsNotFound name) ↔
        name = "" ∧ info.compilerName = "" ∧ "" ∉ loaded.config.compilerNames) ∧
    ∀ scope, .unknownCompiler scope info.compilerName ∈ loaded.warnings →
      (loaded.config.manager files cwd).compile machine file =
        (.error (CompileManager.wrap (loaded.config.entryFor? file).isSome
          (.compilerNotFound info.compilerName)), machine) := by
  constructor
  · intro hsilent name
    rw [fails_notFound_manager_iff hgiven]
    constructor
    · rintro ⟨rfl, hunknown⟩
      have hempty : info.compilerName = "" := by
        refine Decidable.byContradiction fun hne => ?_
        -- a compiler with a name would have been warned about
        obtain ⟨scope, hwarned⟩ := hloaded.exists_unknownCompiler_mem_iff.2
          ⟨hne, hunknown, info, loaded.config.mem_infos_of_given? hgiven, rfl⟩
        exact hsilent scope _ hwarned
      exact ⟨hempty, hempty, hempty ▸ hunknown⟩
    · rintro ⟨rfl, hempty, hunknown⟩
      exact ⟨hempty, hunknown⟩
  · intro scope hwarned
    obtain ⟨-, hunknown, -⟩ := hloaded.exists_unknownCompiler_mem_iff.1 ⟨scope, hwarned⟩
    exact compile_manager_eq_notFound hgiven hunknown machine

/-- The text of a configuration with one compiler. -/
def gccText : String :=
  "[[compilers]]\nname = 'gcc'\nexe = '/usr/bin/gcc'\n"

/-- The text with a default compiler. -/
def defaultText (name : String) : String :=
  gccText ++ "[default_compile_info]\ncompiler_name = '" ++ name ++ "'\n"

/-- An unknown default compiler is warned about and not found; a known one is found. -/
theorem warnings_predict_default :
    (∃ loaded, ofText "a.toml" (defaultText "clang") = .ok loaded ∧
      ∀ files cwd machine, (loaded.config.manager files cwd).compile machine (.ofText "/main.c") =
        (.error (.underDefault (.compilerNotFound "clang")), machine)) ∧
    ∃ loaded, ofText "b.toml" (defaultText "gcc") = .ok loaded ∧
      ∀ files cwd machine name, ¬∃ error machine',
        (loaded.config.manager files cwd).compile machine (.ofText "/main.c") =
            (.error error, machine') ∧
          error.IsNotFound name := by
  have hdefaults : ∀ name ∈ ["clang", "gcc"], (Config.ofToml? (defaultText name)).map
      (fun c => (c.compilers, c.defaultInfo, c.files)) =
        some ([{ name := "gcc", exe := .ofText "/usr/bin/gcc" }], some { compilerName := name },
          []) := by
    decide +kernel
  constructor
  · obtain ⟨loaded, hread, hcompilers, hdefault, hfiles⟩ :=
      exists_ofText (hdefaults "clang" (by simp)) "a.toml"
    have hgiven : loaded.config.given? (.ofText "/main.c") = some { compilerName := "clang" } := by
      rw [Config.given?, Config.entryFor?, hdefault, hfiles]
      rfl
    obtain ⟨scope, hwarned⟩ := (IsLoaded.ofText hread).exists_unknownCompiler_mem_iff.2
      ⟨by decide, by simp [Config.compilerNames, hcompilers], _,
        loaded.config.mem_infos_of_given? hgiven, rfl⟩
    refine ⟨loaded, hread, fun files cwd machine => ?_⟩
    rw [(warnings_predict (.ofText hread) hgiven files cwd machine).2 scope hwarned,
      Config.entryFor?, hfiles]
    rfl
  · obtain ⟨loaded, hread, hcompilers, hdefault, hfiles⟩ :=
      exists_ofText (hdefaults "gcc" (by simp)) "b.toml"
    have hgiven : loaded.config.given? (.ofText "/main.c") = some { compilerName := "gcc" } := by
      rw [Config.given?, Config.entryFor?, hdefault, hfiles]
      rfl
    have hsilent := (IsLoaded.ofText hread).unknownCompiler_not_mem <| by
      rw [Config.infos, Config.compilerNames, hcompilers, hdefault, hfiles]
      decide
    refine ⟨loaded, hread, fun files cwd machine name hfails => ?_⟩
    have hempty := ((warnings_predict (.ofText hread) hgiven files cwd machine).1 hsilent name).1
      hfails
    exact absurd hempty.2.1 (by decide)

/-- Settings without the name of a compiler raise no warning, and no compiler is found for them,
although there is one for all other files. -/
theorem unnamed_compiler_not_found :
    ∃ loaded, ofText "c.toml" (gccText ++ "[[compile_info]]\nfile = '/main.c'\n") = .ok loaded ∧
      (loaded.config.entryFor? (.ofText "/main.c")).isSome = true ∧
      (∀ scope name, .unknownCompiler scope name ∉ loaded.warnings) ∧
      ∀ files cwd machine, (loaded.config.manager files cwd).compile machine (.ofText "/main.c") =
        (.error (.compilerNotFound ""), machine) := by
  have hparts : (Config.ofToml? (gccText ++ "[[compile_info]]\nfile = '/main.c'\n")).map
      (fun c => (c.compilers, c.defaultInfo, c.files)) =
        some ([{ name := "gcc", exe := .ofText "/usr/bin/gcc" }], none,
          [{ file := .ofText "/main.c" }]) := by
    decide +kernel
  obtain ⟨loaded, hread, hcompilers, hdefault, hfiles⟩ := exists_ofText hparts "c.toml"
  have hentry : loaded.config.entryFor? (.ofText "/main.c") =
      some { file := .ofText "/main.c" } := by
    rw [Config.entryFor?, hfiles]
    decide
  have hgiven : loaded.config.given? (.ofText "/main.c") = some {} := by
    rw [Config.given?, hentry]
    rfl
  have hunknown : "" ∉ loaded.config.compilerNames := by
    rw [Config.compilerNames, hcompilers]
    decide
  have hsilent := (IsLoaded.ofText hread).unknownCompiler_not_mem <| by
    rw [Config.infos, Config.compilerNames, hcompilers, hdefault, hfiles]
    decide
  refine ⟨loaded, hread, by rw [hentry]; rfl, hsilent, fun files cwd machine => ?_⟩
  rw [compile_manager_eq_notFound hgiven hunknown, hentry]
  rfl

end LoadedConfig

end AsmExplorer
