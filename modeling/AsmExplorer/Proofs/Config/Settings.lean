import AsmExplorer.CommandLine.Run
import AsmExplorer.Proofs.Config.Manager
import AsmExplorer.Proofs.Path.Joining

/-!
# Which settings apply to a file

An entry of a configuration means a file by a path that is seen from the directory of the
configuration file (`FileConfig.fileFrom`).  A file on the command line is meant from the working
directory.  Whether the two meet depends on how the path of the configuration was given:

* `Config.entryFrom?` : the last entry that means a file, seen from a directory.
* `Config.applicable` : the entries that are found at all.  With an absolute path these are all
  entries; with a relative one the files of relative entries stay relative, and no file on the
  command line is found under a relative path.

`LoadedConfig.settings_from_load` says which settings a file on the command line gets, and
`LoadedConfig.relative_settings_lost` that those of relative entries are lost.
-/

namespace AsmExplorer

/-! ### Files of entries -/

namespace FileConfig

variable {entry : FileConfig} {p file : Path}

theorem fileFrom_of_isAbsolute (h : entry.file.isAbsolute = true) (directory : Option Path) :
    entry.fileFrom directory = entry.file := by
  cases directory with
  | none => rfl
  | some directory => exact Path.join_of_isAbsolute h

theorem isAbsolute_fileFrom_of_relative (hpath : p.isAbsolute = false)
    (hentry : entry.file.isAbsolute = false) : (entry.fileFrom p.parent?).isAbsolute = false := by
  unfold fileFrom
  split
  · rename_i directory hparent
    exact Path.isAbsolute_join_of_relative
      (Path.isAbsolute_parent?_of_relative hpath hparent) hentry
  · exact hentry

/-- Seen from the directory of a path, an entry means an absolute file exactly if it means that file
seen from the directory of the path as a whole, and either the path or the entry is absolute. -/
theorem normalize_fileFrom_eq_iff (entry : FileConfig) (configPath directory : Path)
    (hfile : file.isAbsolute = true) :
    (entry.fileFrom configPath.parent?).normalize = file.normalize ↔
      (configPath.isAbsolute = true ∨ entry.file.isAbsolute = true) ∧
        (entry.fileFrom (directory.join configPath).parent?).normalize = file.normalize := by
  cases hpath : configPath.isAbsolute with
  | true => simp [Path.join_of_isAbsolute hpath]
  | false =>
    cases hentry : entry.file.isAbsolute with
    | true => simp [fileFrom_of_isAbsolute hentry]
    | false =>
      -- a relative path is no spelling of an absolute one
      have hrelative := isAbsolute_fileFrom_of_relative hpath hentry
      refine ⟨fun h => ?_, fun h => ?_⟩
      · rw [← Path.isAbsolute_normalize_iff, ← h, Path.isAbsolute_normalize_iff, hrelative] at hfile
        cases hfile
      · simp at h

end FileConfig

namespace Config

variable {c : Config} {file : Path}

/-- The last entry that means a file, seen from a directory. -/
def entryFrom? (c : Config) (directory : Option Path) (file : Path) : Option FileConfig :=
  c.files.reverse.find? fun entry => (entry.fileFrom directory).normalize = file.normalize

/-- The configuration with those entries alone that are found: all of them if the path of the
configuration is absolute, and otherwise those with an absolute file. -/
def applicable (c : Config) (configPath : Path) : Config :=
  { c with files := c.files.filter fun entry => configPath.isAbsolute || entry.file.isAbsolute }

/-- The settings for an absolute file are those of the last applicable entry that means it. -/
theorem entryFor?_seenFrom (c : Config) (configPath directory : Path)
    (hfile : file.isAbsolute = true) :
    ((c.seenFrom configPath.parent?).entryFor? file).map (·.info) =
      ((c.applicable configPath).entryFrom? (directory.join configPath).parent? file).map
        (·.info) := by
  rw [entryFor?, entryFrom?, applicable, seenFrom, ← List.filter_reverse,
    List.find?_filter, ← List.map_reverse, List.find?_map, Option.map_map]
  refine congrArg (Option.map _) (congrArg (List.find? · _) (funext fun entry => ?_))
  simp [entry.normalize_fileFrom_eq_iff configPath directory hfile]

/-- The last entry that means a file is found, if it applies. -/
theorem entryFrom?_applicable {directory : Option Path} {entry : FileConfig} {configPath : Path}
    (h : c.entryFrom? directory file = some entry)
    (happlies : configPath.isAbsolute = true ∨ entry.file.isAbsolute = true) :
    (c.applicable configPath).entryFrom? directory file = some entry := by
  obtain ⟨hmeant, later, earlier, hfiles, hlater⟩ := List.find?_eq_some_iff_append.1 h
  rw [entryFrom?, applicable, ← List.filter_reverse, List.find?_filter,
    List.find?_eq_some_iff_append]
  refine ⟨by simpa [happlies] using hmeant, later, earlier, hfiles, fun other hother => ?_⟩
  have hne : ¬(other.fileFrom directory).normalize = file.normalize := by
    simpa using hlater other hother
  simp [hne]

end Config

/-! ### Files on the command line -/

theorem FileTree.isAbsolute_pathOf (names : Names) : (pathOf names).isAbsolute = true := by
  rw [pathOf, Path.ofComponents, Path.isAbsolute]
  rfl

/-- A file on the command line means what it means when joined to the working directory. -/
theorem exists_resolveSource {cwd argument : Path} (hcwd : cwd.isAbsolute = true)
    (hargument : argument.bytes ≠ []) :
    ∃ path, resolveSource cwd argument = .ok (path, fileUri path.normalize) ∧
      path.isAbsolute = true ∧ path.normalize = (cwd.join argument).normalize := by
  obtain ⟨path, hpath, habsolute, hcomponents⟩ := Path.exists_absolute? hcwd hargument
  refine ⟨path, ?_, habsolute, Path.normalize_congr hcomponents⟩
  rw [resolveSource, hpath]
  simp only [sourceUri_of_isAbsolute habsolute]

namespace LoadedConfig

variable {files : FileTree} {cwd : Names} {configPath argument : Path} {loaded : LoadedConfig}

/-- **The settings of a file on the command line.**  They are those of the last entry that means the
file, seen from the directory of the configuration, among the entries that are found: all of them if
the path of the configuration is absolute, but only those with an absolute file if it is
relative. -/
theorem settings_from_load (hload : load files cwd configPath = .ok loaded)
    (hargument : argument.bytes ≠ []) :
    ∃ text written path document, files.readText cwd configPath = .ok text ∧
      Config.ofToml? (String.ofList text) = some written ∧
      resolveSource (FileTree.pathOf cwd) argument = .ok (path, document) ∧
      path.normalize = ((FileTree.pathOf cwd).join argument).normalize ∧
      (∀ files' cwd', (loaded.config.manager files' cwd').info? path =
        ((written.applicable configPath).entryFrom?
          ((FileTree.pathOf cwd).join configPath).parent? path).map (·.info)) ∧
      ∀ entry, written.entryFrom? ((FileTree.pathOf cwd).join configPath).parent? path =
          some entry →
        configPath.isAbsolute = true ∨ entry.file.isAbsolute = true →
        ∀ files' cwd', (loaded.config.manager files' cwd').info? path = some entry.info := by
  obtain ⟨text, written, htext, hwritten, hconfig, -⟩ := exists_written_of_load hload
  obtain ⟨path, hpath, habsolute, hnormal⟩ :=
    exists_resolveSource (FileTree.isAbsolute_pathOf cwd) hargument
  have hinfo (files' : FileTree) (cwd' : Names) :
      (loaded.config.manager files' cwd').info? path =
        ((written.applicable configPath).entryFrom?
          ((FileTree.pathOf cwd).join configPath).parent? path).map (·.info) := by
    rw [Config.info?_manager, hconfig, written.entryFor?_seenFrom configPath _ habsolute]
  refine ⟨text, written, path, _, htext, hwritten, hpath, hnormal, hinfo, ?_⟩
  intro entry hentry happlies files' cwd'
  rw [hinfo, Config.entryFrom?_applicable hentry happlies, Option.map_some]

/-- The text of a configuration with one entry, whose file is relative. -/
def relativeText : List Char :=
  "[[compile_info]]\nfile = 'main.c'\ncompiler_name = 'gcc'\n".toList

/-- The directory `/w`. -/
def relativeDirectory : Names :=
  [Text.bytes "w"]

/-- The configuration in that directory. -/
def relativeTree : FileTree :=
  ⟨[(relativeDirectory, .directory),
    (relativeDirectory ++ [localName.bytes], .file (Text.utf8 relativeText))]⟩

theorem readText_of_read {path : Path} {text : List Char}
    (h : (files.read cwd path).toOption = some (Text.utf8 text)) :
    files.readText cwd path = .ok text := by
  rw [FileTree.readText, toOption_eq_some_iff.1 h]
  simp only [bind, Except.bind, Text.decode?_utf8]

theorem exists_relativeText :
    ∃ written, Config.ofToml? (String.ofList relativeText) = some written ∧
      written.files = [{ file := .ofText "main.c", info := { compilerName := "gcc" } }] := by
  have hfiles : (Config.ofToml? (String.ofList relativeText)).map (·.files) =
      some [{ file := .ofText "main.c", info := { compilerName := "gcc" } }] := by
    decide +kernel
  exact Option.map_eq_some_iff.1 hfiles

/-- Loaded by its absolute path, the configuration has settings for `./main.c`. -/
theorem settings_from_absolute_load :
    ∃ loaded path document,
      load relativeTree relativeDirectory (.ofText "/w/asmlens.toml") = .ok loaded ∧
      resolveSource (FileTree.pathOf relativeDirectory) (.ofText "./main.c") =
        .ok (path, document) ∧
      ∀ files' cwd', (loaded.config.manager files' cwd').info? path =
        some { compilerName := "gcc" } := by
  have htext : relativeTree.readText relativeDirectory (.ofText "/w/asmlens.toml") =
      .ok relativeText :=
    readText_of_read (by decide +kernel)
  obtain ⟨written, hwritten, hfiles⟩ := exists_relativeText
  have hload := load_eq_ok htext hwritten
  have hargument : (Path.ofText "./main.c").bytes ≠ [] := by decide
  obtain ⟨text', written', path, document, htext', hwritten', hpath, -, -, hinfo⟩ :=
    settings_from_load hload hargument
  rw [htext, Except.ok.injEq] at htext'
  subst htext'
  rw [hwritten, Option.some.injEq] at hwritten'
  subst hwritten'
  have hmain : resolveSource (FileTree.pathOf relativeDirectory) (.ofText "./main.c") =
      .ok (.ofText "/w/main.c", fileUri (.ofText "/w/main.c")) := rfl
  refine ⟨_, path, document, hload, hpath, fun files' cwd' => ?_⟩
  rw [hmain, Except.ok.injEq, Prod.mk.injEq] at hpath
  obtain ⟨rfl, -⟩ := hpath
  refine hinfo { file := .ofText "main.c", info := { compilerName := "gcc" } } ?_ (.inl rfl)
    files' cwd'
  rw [Config.entryFrom?, hfiles]
  decide

/-- Loaded by its relative path, the configuration has no settings for the file that its entry
means. -/
theorem relative_settings_lost :
    ∃ loaded written, load relativeTree relativeDirectory localName = .ok loaded ∧
      Config.ofToml? (String.ofList relativeText) = some written ∧
      relativeTree.readText relativeDirectory localName = .ok relativeText ∧
      resolveSource (FileTree.pathOf relativeDirectory) (.ofText "main.c") =
        .ok (.ofText "/w/main.c", fileUri (.ofText "/w/main.c")) ∧
      (written.entryFrom? ((FileTree.pathOf relativeDirectory).join localName).parent?
        (.ofText "/w/main.c")).map (·.info) = some { compilerName := "gcc" } ∧
      ∀ files' cwd', (loaded.config.manager files' cwd').info? (.ofText "/w/main.c") = none := by
  have htext : relativeTree.readText relativeDirectory localName = .ok relativeText :=
    readText_of_read (by decide +kernel)
  obtain ⟨written, hwritten, hfiles⟩ := exists_relativeText
  refine ⟨_, written, load_eq_ok htext hwritten, hwritten, htext, rfl, ?_, fun files' cwd' => ?_⟩
  · rw [Config.entryFrom?, hfiles]
    decide
  · rw [Config.info?_manager, Config.entryFor?, Config.seenFrom]
    simp only [hfiles]
    decide

end LoadedConfig

end AsmExplorer
