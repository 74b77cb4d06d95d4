import AsmExplorer.Config.Load
import AsmExplorer.Proofs.Compiler.Store
import AsmExplorer.Proofs.Path.Joining
import Mathlib.Data.List.Basic

/-!
# The manager of a configuration

The compile manager of a configuration is a new one after calls that the configuration lists
(`Config.manager_eq_run`), so it holds what these calls offer and store:

* `Config.compiler?_manager_eq_none_iff` : a name has a compiler if one is configured.
* `Config.info?_manager` : a file has the settings of the last entry for it, `Config.entryFor?`.
* `Config.settings_manager` : the settings in force for a file, as far as they are given.

What is loaded from a file is what the file says (`LoadedConfig.exists_written_of_load`), but for
the files of the entries, which are seen from its directory (`Config.seenFrom`).
-/

namespace AsmExplorer

/-! ### The manager -/

namespace Config

variable (c : Config) (files : FileTree) (cwd : Names)

/-- The calls that set up the manager of a configuration. -/
def calls : List ManagerCall :=
  c.compilers.map (fun compiler => .add (compiler.info files cwd)) ++
    .setDefault c.fallback :: c.files.map fun entry => .setInfo entry.file entry.info

theorem manager_eq_run :
    c.manager files cwd = CompileManager.run { filters := c.filters } (c.calls files cwd) := by
  rw [CompileManager.run, calls, List.foldl_append, List.foldl_map, List.foldl_cons,
    List.foldl_map]
  rfl

theorem flatMap_calls {α : Type} (f : ManagerCall → List α) :
    (c.calls files cwd).flatMap f =
      c.compilers.flatMap (fun compiler => f (.add (compiler.info files cwd))) ++
        (f (.setDefault c.fallback) ++
          c.files.flatMap fun entry => f (.setInfo entry.file entry.info)) := by
  rw [calls, List.flatMap_append, List.flatMap_cons, List.flatMap_map, List.flatMap_map]

theorem offers_calls :
    (c.calls files cwd).flatMap ManagerCall.offers =
      c.compilers.map fun compiler => compiler.info files cwd := by
  simp [flatMap_calls, ManagerCall.offers, List.flatMap_eq_nil_iff, List.map_eq_flatMap]

theorem stores_calls :
    (c.calls files cwd).flatMap ManagerCall.stores =
      c.files.map fun entry => (entry.file, entry.info) := by
  simp [flatMap_calls, ManagerCall.stores, List.flatMap_eq_nil_iff, List.map_eq_flatMap]

theorem fallbacks_calls :
    (c.calls files cwd).filterMap ManagerCall.fallback? = [c.fallback] := by
  rw [List.filterMap_eq_flatMap_toList, flatMap_calls]
  simp [ManagerCall.fallback?, List.flatMap_def]

theorem records_manager :
    (c.manager files cwd).Records (c.compilers.map fun compiler => compiler.info files cwd)
      (c.files.map fun entry => (entry.file, entry.info)) := by
  rw [manager_eq_run, ← offers_calls, ← stores_calls]
  exact CompileManager.records_run _ _

/-- The last entry for a file, under any spelling of its path. -/
def entryFor? (file : Path) : Option FileConfig :=
  c.files.reverse.find? fun entry => entry.file.normalize = file.normalize

theorem info?_manager (file : Path) :
    (c.manager files cwd).info? file = (c.entryFor? file).map (·.info) := by
  rw [(c.records_manager files cwd).info?_eq, lastFor, ← List.map_reverse, List.find?_map,
    Option.map_map]
  rfl

theorem defaultInfo_manager : (c.manager files cwd).defaultInfo = c.fallback := by
  rw [manager_eq_run, CompileManager.run_eq_getLastD CompileManager.defaultInfo_after,
    fallbacks_calls]
  rfl

theorem compiler?_manager_eq_none_iff {name : String} :
    (c.manager files cwd).compiler? name = none ↔ name ∉ c.compilerNames := by
  rw [(c.records_manager files cwd).compiler?_eq, ← Option.not_isSome_iff_eq_none,
    isSome_firstNamed_iff, compilerNames]
  simp only [List.mem_map, exists_exists_and_eq_and]
  rfl

/-- The settings in force for a file, as far as the configuration gives them: those of its last
entry, or else the default ones. -/
def given? (file : Path) : Option CompilationInfo :=
  ((c.entryFor? file).map (·.info)).or c.defaultInfo

theorem settings_manager {file : Path} {info : CompilationInfo} (h : c.given? file = some info) :
    (c.manager files cwd).settings file = info := by
  rw [CompileManager.settings, info?_manager, defaultInfo_manager]
  cases hentry : (c.entryFor? file).map (·.info) with
  | some own =>
    rw [given?, hentry, Option.some_or] at h
    exact Option.some.inj h
  | none =>
    rw [given?, hentry, Option.none_or] at h
    rw [fallback, h]
    rfl

/-! ### Settings -/

/-- All settings that a configuration gives, in the order in which they are checked. -/
def infos : List CompilationInfo :=
  c.defaultInfo.toList ++ c.files.map (·.info)

theorem mem_infos_of_given? {file : Path} {info : CompilationInfo} (h : c.given? file = some info) :
    info ∈ c.infos := by
  rw [infos, List.mem_append, Option.mem_toList]
  rcases Option.or_eq_some_iff.1 h with hown | ⟨-, hdefault⟩
  · obtain ⟨entry, hentry, hinfo⟩ := Option.map_eq_some_iff.1 hown
    have hmem : entry ∈ c.files := List.mem_reverse.1 (List.mem_of_find?_eq_some hentry)
    exact .inr (List.mem_map.2 ⟨entry, hmem, hinfo⟩)
  · exact .inl hdefault

end Config

/-! ### Files of entries -/

/-- The file that an entry means, seen from a directory if there is one. -/
def FileConfig.fileFrom (directory : Option Path) (entry : FileConfig) : Path :=
  match directory with
  | some directory => directory.join entry.file
  | none => entry.file

namespace Config

/-- The configuration with the files that its entries mean. -/
def seenFrom (c : Config) (directory : Option Path) : Config :=
  { c with files := c.files.map fun entry => { entry with file := entry.fileFrom directory } }

theorem anchor_eq_seenFrom (c : Config) (directory : Path) :
    c.anchor directory = c.seenFrom (some directory) := by
  have hentry : ∀ entry ∈ c.files,
      (if entry.file.isAbsolute then entry else { entry with file := directory.join entry.file }) =
        { entry with file := entry.fileFrom (some directory) } := by
    intro entry _
    split
    · rename_i habsolute
      rw [FileConfig.fileFrom, Path.join_of_isAbsolute habsolute]
    · rfl
  rw [anchor, seenFrom, List.map_congr_left hentry]

theorem seenFrom_none (c : Config) : c.seenFrom none = c := by
  rw [seenFrom]
  simp [FileConfig.fileFrom]

theorem infos_seenFrom (c : Config) (directory : Option Path) :
    (c.seenFrom directory).infos = c.infos := by
  rw [infos, infos, seenFrom, List.map_map]
  rfl

end Config

/-! ### Loading -/

namespace LoadedConfig

variable {loaded : LoadedConfig}

theorem exists_written_of_ofText {origin text : String} (h : ofText origin text = .ok loaded) :
    ∃ written, Config.ofToml? text = some written ∧ loaded.config = written ∧
      loaded.warnings = written.warnings := by
  unfold ofText at h
  split at h
  · rename_i written hwritten
    rw [← Except.ok.inj h]
    exact ⟨written, hwritten, rfl, rfl⟩
  · cases h

/-- What is loaded from a file is what its text says, seen from the directory of the file. -/
theorem load_eq_ok {files : FileTree} {cwd : Names} {path : Path} {text : List Char}
    {written : Config} (htext : files.readText cwd path = .ok text)
    (hwritten : Config.ofToml? (String.ofList text) = some written) :
    load files cwd path = .ok
      { config := written.seenFrom path.parent?, path := some path
        warnings := written.warnings } := by
  have hread : ofText path.display (String.ofList text) =
      .ok { config := written, warnings := written.warnings } := by
    rw [ofText, hwritten]
  rw [load, htext]
  simp only [hread, bind, Except.bind, pure, Except.pure]
  cases path.parent? with
  | none => rw [Config.seenFrom_none]
  | some directory => rw [← Config.anchor_eq_seenFrom]

theorem exists_written_of_load {files : FileTree} {cwd : Names} {path : Path}
    (h : load files cwd path = .ok loaded) :
    ∃ text written, files.readText cwd path = .ok text ∧
      Config.ofToml? (String.ofList text) = some written ∧
      loaded.config = written.seenFrom path.parent? ∧ loaded.warnings = written.warnings := by
  cases htext : files.readText cwd path with
  | error fault =>
    rw [load, htext] at h
    cases h
  | ok text =>
    cases hwritten : Config.ofToml? (String.ofList text) with
    | none =>
      rw [load, htext] at h
      simp only [ofText, hwritten, bind, Except.bind] at h
      cases h
    | some written =>
      rw [load_eq_ok htext hwritten] at h
      obtain rfl := Except.ok.inj h
      exact ⟨text, written, rfl, hwritten, rfl, rfl⟩

/-- What is read from a text with known compilers and settings. -/
theorem exists_ofText {text : String} {compilers : List CompilerConfig}
    {defaultInfo : Option CompilationInfo} {entries : List FileConfig}
    (h : (Config.ofToml? text).map (fun c => (c.compilers, c.defaultInfo, c.files)) =
      some (compilers, defaultInfo, entries)) (origin : String) :
    ∃ loaded, ofText origin text = .ok loaded ∧ loaded.config.compilers = compilers ∧
      loaded.config.defaultInfo = defaultInfo ∧ loaded.config.files = entries := by
  obtain ⟨c, hc, hparts⟩ := Option.map_eq_some_iff.1 h
  simp only [Prod.mk.injEq] at hparts
  exact ⟨{ config := c, warnings := c.warnings }, by rw [ofText, hc], hparts⟩

end LoadedConfig

end AsmExplorer
