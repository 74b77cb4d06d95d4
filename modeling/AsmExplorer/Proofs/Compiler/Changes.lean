import AsmExplorer.Proofs.Compiler.Store

/-!
# What a build system changes

A build system says which settings belong to which files, and is told the files whose settings
changed.  What an entry stores for its file is settled before the first entry is taken over
(`CompileManager.settingsFrom`), since no later compiler takes the name of an earlier one.  So a
file goes through the settings of its entries one after the other:

* `CompileManager.stored` : the settings that entries store for a file, in order.
* `changes` : the number of steps at which a value changes.
* `CompileManager.timesReported_eq` : a file is reported once for every such step.

Hence a file whose settings differ afterwards is always reported, and it is reported once and only
then if its settings change at most once on the way.  Entries that set a file and set it back report
it twice, and entries that disagree about a file report it again whenever they come in again
(`CompileManager.reports_exactly_iff`).
-/

namespace AsmExplorer

/-! ### Changes of a value -/

section Changes

variable {α : Type} [DecidableEq α] {before : α} {values : List α}

/-- The number of steps at which a value changes, from `before` on. -/
def changes (before : α) : List α → Nat
  | [] => 0
  | value :: rest => (if value = before then 0 else 1) + changes value rest

theorem changes_eq_zero_iff : changes before values = 0 ↔ ∀ value ∈ values, value = before := by
  induction values generalizing before with
  | nil => simp [changes]
  | cons value values ih =>
    rw [changes, List.forall_mem_cons]
    by_cases hvalue : value = before
    · subst hvalue
      simp [ih]
    · simp [hvalue]

theorem getLastD_eq_of_changes_eq_zero (h : changes before values = 0) :
    values.getLastD before = before := by
  obtain hbefore | hmem := List.mem_cons.1 List.getLastD_mem_cons
  · exact hbefore
  · exact changes_eq_zero_iff.1 h _ hmem

theorem getLastD_ne_of_changes_eq_one (h : changes before values = 1) :
    values.getLastD before ≠ before := by
  induction values generalizing before with
  | nil => cases h
  | cons value values ih =>
    rw [changes] at h
    rw [List.getLastD_cons]
    by_cases hvalue : value = before
    · subst hvalue
      exact ih (by simpa using h)
    · have hrest : changes value values = 0 := by
        rw [if_neg hvalue] at h
        omega
      rw [getLastD_eq_of_changes_eq_zero hrest]
      exact hvalue

/-- The changes tell whether there is a change at the end, if there is one of them at most. -/
theorem changes_eq_ite_iff :
    changes before values = (if values.getLastD before = before then 0 else 1) ↔
      changes before values ≤ 1 := by
  constructor
  · intro h
    rw [h]
    split <;> omega
  · intro h
    obtain hzero | hone : changes before values = 0 ∨ changes before values = 1 := by omega
    · rw [hzero, if_pos (getLastD_eq_of_changes_eq_zero hzero)]
    · rw [hone, if_neg (getLastD_ne_of_changes_eq_one hone)]

theorem changes_le_one (h : ∀ value ∈ values, ∀ other ∈ values, value = other) :
    changes before values ≤ 1 := by
  cases values with
  | nil => exact Nat.zero_le 1
  | cons value values =>
    have hrest : changes value values = 0 :=
      changes_eq_zero_iff.2 fun other hother =>
        h other (List.mem_cons_of_mem _ hother) value List.mem_cons_self
    rw [changes, hrest]
    split <;> omega

end Changes

namespace CompileManager

variable (m : CompileManager) (files : FileTree) (cwd : Names)

/-! ### One entry -/

/-- The name that settings give to the compiler which is looked for under a name. -/
def keptName (name : String) : String :=
  ((m.compiler? name).map CompilerInfo.name).getD name

/-- The settings that an entry stores. -/
def settingsFrom (reported : BuildSystemCompileInfo) : CompilationInfo :=
  reported.settings (m.keptName (BuildSystemCompileInfo.compilerName reported.compilerPath))

theorem keptName_of_getOrRegister (info : CompilerInfo) :
    (m.registry.getOrRegister info).2.name = m.keptName info.name := by
  rw [CompilerRegistry.getOrRegister, keptName, compiler?]
  cases m.registry.get? info.name <;> rfl

theorem keptName_register (info : CompilerInfo) (name : String) :
    keptName { m with registry := (m.registry.getOrRegister info).1 } name = m.keptName name := by
  rw [keptName, keptName, compiler?, compiler?, CompilerRegistry.get?_getOrRegister]
  cases m.registry.get? name with
  | some existing => rfl
  | none =>
    by_cases hname : info.name = name
    · simp [hname]
    · simp [hname]

theorem settingsFrom_applyEntry (file : Path) (reported other : BuildSystemCompileInfo) :
    (m.applyEntry files cwd file reported).1.settingsFrom other = m.settingsFrom other :=
  congrArg other.settings (m.keptName_register (reported.compiler files cwd) _)

/-- An entry stores its settings for its file, under any spelling, and for no other. -/
theorem info?_applyEntry (file other : Path) (reported : BuildSystemCompileInfo) :
    (m.applyEntry files cwd file reported).1.info? other =
      if other.normalize = file.normalize then some (m.settingsFrom reported)
      else m.info? other := by
  rw [settingsFrom]
  have hname := m.keptName_of_getOrRegister (reported.compiler files cwd)
  rw [← show _ = m.keptName (BuildSystemCompileInfo.compilerName reported.compilerPath) from hname]
  exact CompileInfoDatabase.lookup_put _ _ _ _

theorem applyEntry_changed_iff (file : Path) (reported : BuildSystemCompileInfo) :
    (m.applyEntry files cwd file reported).2 = true ↔
      some (m.settingsFrom reported) ≠ m.info? file := by
  have hafter := m.info?_applyEntry files cwd file file reported
  rw [if_pos rfl] at hafter
  rw [← hafter]
  exact setInfo_changed_iff _ _ _

/-! ### All entries -/

/-- The settings that entries store for a file, in order. -/
def stored (entries : List (Path × BuildSystemCompileInfo)) (file : Path) : List CompilationInfo :=
  (entries.filter fun entry => entry.1.normalize = file.normalize).map fun entry =>
    m.settingsFrom entry.2

/-- How often a file is reported, under any spelling. -/
def timesReported (entries : List (Path × BuildSystemCompileInfo)) (file : Path) : Nat :=
  (m.apply files cwd entries).2.countP fun other => other.normalize = file.normalize

variable (entry : Path × BuildSystemCompileInfo) (entries : List (Path × BuildSystemCompileInfo))
  (file : Path)

theorem stored_cons :
    m.stored (entry :: entries) file =
      if entry.1.normalize = file.normalize then m.settingsFrom entry.2 :: m.stored entries file
      else m.stored entries file := by
  rw [stored, List.filter_cons]
  by_cases hfile : entry.1.normalize = file.normalize
  · rw [if_pos (by simpa using hfile), if_pos hfile, List.map_cons, stored]
  · rw [if_neg (by simpa using hfile), if_neg hfile, stored]

theorem stored_applyEntry (other : Path) (reported : BuildSystemCompileInfo) :
    (m.applyEntry files cwd other reported).1.stored entries file = m.stored entries file :=
  List.map_congr_left fun entry _ => m.settingsFrom_applyEntry files cwd other reported entry.2

theorem settingsFrom_apply (reported : BuildSystemCompileInfo) :
    (m.apply files cwd entries).1.settingsFrom reported = m.settingsFrom reported := by
  induction entries generalizing m with
  | nil => rfl
  | cons entry entries ih =>
    exact (ih _).trans (m.settingsFrom_applyEntry files cwd entry.1 entry.2 reported)

theorem stored_apply (more : List (Path × BuildSystemCompileInfo)) :
    (m.apply files cwd entries).1.stored more file = m.stored more file :=
  List.map_congr_left fun entry _ => m.settingsFrom_apply files cwd entries entry.2

/-- A file has the settings that were stored for it last. -/
theorem info?_apply :
    (m.apply files cwd entries).1.info? file =
      ((m.stored entries file).map some).getLastD (m.info? file) := by
  induction entries generalizing m with
  | nil => rfl
  | cons entry entries ih =>
    have hrest := ih (m.applyEntry files cwd entry.1 entry.2).1
    rw [stored_applyEntry, info?_applyEntry] at hrest
    refine hrest.trans ?_
    rw [stored_cons]
    by_cases hfile : entry.1.normalize = file.normalize
    · rw [if_pos hfile.symm, if_pos hfile, List.map_cons, List.getLastD_cons]
    · rw [if_neg (Ne.symm hfile), if_neg hfile]

theorem snd_apply_cons :
    (m.apply files cwd (entry :: entries)).2 =
      if (m.applyEntry files cwd entry.1 entry.2).2 = true then
        entry.1 :: ((m.applyEntry files cwd entry.1 entry.2).1.apply files cwd entries).2
      else ((m.applyEntry files cwd entry.1 entry.2).1.apply files cwd entries).2 :=
  rfl

/-- An entry adds a report of its file if the settings that it stores are new. -/
theorem timesReported_cons :
    m.timesReported files cwd (entry :: entries) file =
      (if entry.1.normalize = file.normalize ∧ some (m.settingsFrom entry.2) ≠ m.info? file
        then 1 else 0) +
        (m.applyEntry files cwd entry.1 entry.2).1.timesReported files cwd entries file := by
  have hchanged := m.applyEntry_changed_iff files cwd entry.1 entry.2
  rw [timesReported, snd_apply_cons, timesReported]
  by_cases hfile : entry.1.normalize = file.normalize
  · have hinfo : m.info? entry.1 = m.info? file := by
      rw [info?, info?, CompileInfoDatabase.get?, CompileInfoDatabase.get?, hfile]
    rw [hinfo] at hchanged
    by_cases hnew : some (m.settingsFrom entry.2) ≠ m.info? file
    · rw [if_pos (hchanged.2 hnew), if_pos ⟨hfile, hnew⟩,
        List.countP_cons_of_pos (by simpa using hfile), Nat.add_comm]
    · rw [if_neg (mt hchanged.1 hnew), if_neg (mt And.right hnew), Nat.zero_add]
  · rw [if_neg (mt And.left hfile), Nat.zero_add]
    split
    · rw [List.countP_cons_of_neg (by simpa using hfile)]
    · rfl

/-- **A file is reported for every change of its settings on the way.** -/
theorem timesReported_eq :
    m.timesReported files cwd entries file =
      changes (m.info? file) ((m.stored entries file).map some) := by
  induction entries generalizing m with
  | nil => rfl
  | cons entry entries ih =>
    rw [timesReported_cons, ih, stored_applyEntry, info?_applyEntry, stored_cons]
    by_cases hfile : entry.1.normalize = file.normalize
    · rw [if_pos hfile.symm, if_pos hfile, List.map_cons, changes]
      by_cases hnew : some (m.settingsFrom entry.2) = m.info? file
      · simp [hnew]
      · simp [hfile, hnew]
    · rw [if_neg (mt And.left hfile), if_neg (Ne.symm hfile), if_neg hfile, Nat.zero_add]

theorem snd_apply_sublist : (m.apply files cwd entries).2.Sublist (entries.map (·.1)) := by
  induction entries generalizing m with
  | nil => exact List.Sublist.refl _
  | cons entry entries ih =>
    have hrest := ih (m.applyEntry files cwd entry.1 entry.2).1
    rw [List.map_cons, snd_apply_cons]
    split
    · exact hrest.cons_cons _
    · exact hrest.cons _

variable {m files cwd entries file}

theorem timesReported_pos_iff :
    0 < m.timesReported files cwd entries file ↔
      ∃ other ∈ (m.apply files cwd entries).2, other.normalize = file.normalize := by
  simp [timesReported, List.countP_pos_iff]

/-! ### Reports -/

/-- Whether a file is reported exactly: once if its settings differ afterwards, and otherwise not at
all. -/
def ReportsExactly (m : CompileManager) (files : FileTree) (cwd : Names)
    (entries : List (Path × BuildSystemCompileInfo)) (file : Path) : Prop :=
  m.timesReported files cwd entries file =
    if (m.apply files cwd entries).1.info? file = m.info? file then 0 else 1

/-- Entries for one file, however it is spelled, agree about its settings. -/
def Agree (m : CompileManager) (entries : List (Path × BuildSystemCompileInfo)) : Prop :=
  ∀ entry ∈ entries, ∀ other ∈ entries, entry.1.normalize = other.1.normalize →
    m.settingsFrom entry.2 = m.settingsFrom other.2

theorem reportsExactly_iff :
    m.ReportsExactly files cwd entries file ↔
      changes (m.info? file) ((m.stored entries file).map some) ≤ 1 := by
  rw [ReportsExactly, timesReported_eq, info?_apply]
  exact changes_eq_ite_iff

/-- Entries agree if each file has one value among what they store. -/
theorem agree_iff :
    m.Agree entries ↔
      ∀ file, ∀ value ∈ m.stored entries file, ∀ other ∈ m.stored entries file,
        value = other := by
  simp only [stored, List.mem_map, List.mem_filter, decide_eq_true_eq]
  constructor
  · rintro h file _ ⟨entry, ⟨hentry, hfile⟩, rfl⟩ _ ⟨other, ⟨hother, hfile'⟩, rfl⟩
    exact h entry hentry other hother (hfile.trans hfile'.symm)
  · intro h entry hentry other hother hfile
    exact h other.1 _ ⟨entry, ⟨hentry, hfile⟩, rfl⟩ _ ⟨other, ⟨hother, rfl⟩, rfl⟩

theorem Agree.reportsExactly (h : m.Agree entries) (file : Path) :
    m.ReportsExactly files cwd entries file := by
  refine reportsExactly_iff.2 (changes_le_one ?_)
  simp only [List.mem_map]
  rintro _ ⟨value, hvalue, rfl⟩ _ ⟨other, hother, rfl⟩
  rw [agree_iff.1 h file value hvalue other hother]

/-- **Entries that come in again change nothing exactly if they agree.** -/
theorem apply_again_iff (files' : FileTree) (cwd' : Names) :
    ((m.apply files cwd entries).1.apply files' cwd' entries).2 = [] ↔ m.Agree entries := by
  have hagain : ((m.apply files cwd entries).1.apply files' cwd' entries).2 = [] ↔
      ∀ file, ∀ value ∈ m.stored entries file,
        some value = ((m.stored entries file).map some).getLastD (m.info? file) := by
    have hnone : ((m.apply files cwd entries).1.apply files' cwd' entries).2 = [] ↔
        ∀ file, (m.apply files cwd entries).1.timesReported files' cwd' entries file = 0 := by
      rw [List.eq_nil_iff_forall_not_mem]
      constructor
      · intro h file
        refine Nat.eq_zero_of_not_pos fun hpos => ?_
        obtain ⟨other, hother, -⟩ := timesReported_pos_iff.1 hpos
        exact h other hother
      · intro h other hother
        exact absurd (h other) (Nat.ne_of_gt (timesReported_pos_iff.2 ⟨other, hother, rfl⟩))
    rw [hnone]
    refine forall_congr' fun file => ?_
    rw [timesReported_eq, changes_eq_zero_iff, stored_apply, info?_apply, List.forall_mem_map]
  rw [hagain, agree_iff]
  refine forall_congr' fun file => ?_
  constructor
  · intro h value hvalue other hother
    exact Option.some.inj ((h value hvalue).trans (h other hother).symm)
  · intro h value hvalue
    obtain ⟨init, last, hstored⟩ := (List.eq_nil_or_concat _).resolve_left
      (List.ne_nil_of_mem hvalue)
    have hlast : last ∈ m.stored entries file := by simp [hstored]
    rw [h value hvalue last hlast, hstored]
    simp

theorem exists_reported_of_ne
    (h : (m.apply files cwd entries).1.info? file ≠ m.info? file) :
    ∃ other ∈ (m.apply files cwd entries).2, other.normalize = file.normalize := by
  rw [← timesReported_pos_iff, timesReported_eq]
  refine Nat.pos_of_ne_zero fun hzero => h ?_
  rw [info?_apply]
  exact getLastD_eq_of_changes_eq_zero hzero

/-- What the answer to a build system says about the settings before and after. -/
structure ReportsChanges (m : CompileManager) (files : FileTree) (cwd : Names)
    (entries : List (Path × BuildSystemCompileInfo)) : Prop where
  /-- Files are reported as the entries spell them, in the order of the entries. -/
  sublist : (m.apply files cwd entries).2.Sublist (entries.map (·.1))
  /-- A file is reported for every change of its settings on the way. -/
  timesReported_eq : ∀ file, m.timesReported files cwd entries file =
    changes (m.info? file) ((m.stored entries file).map some)
  /-- No file whose settings differ afterwards is left out. -/
  exists_reported : ∀ file, (m.apply files cwd entries).1.info? file ≠ m.info? file →
    ∃ other ∈ (m.apply files cwd entries).2, other.normalize = file.normalize
  /-- A file is reported exactly if its settings change once at most. -/
  exactly_iff : ∀ file, m.ReportsExactly files cwd entries file ↔
    changes (m.info? file) ((m.stored entries file).map some) ≤ 1
  /-- If entries for one file agree, all files are reported exactly. -/
  exactly_of_agree : m.Agree entries → ∀ file, m.ReportsExactly files cwd entries file
  /-- The same entries, coming in again, are reported to change nothing exactly if they agree. -/
  again_iff : ∀ (files' : FileTree) (cwd' : Names),
    ((m.apply files cwd entries).1.apply files' cwd' entries).2 = [] ↔ m.Agree entries

/-- **Changed files are reported, and exactly if their settings change once at most on the way.** -/
theorem reports_exactly_iff (m : CompileManager) (files : FileTree) (cwd : Names)
    (entries : List (Path × BuildSystemCompileInfo)) : m.ReportsChanges files cwd entries where
  sublist := m.snd_apply_sublist files cwd entries
  timesReported_eq := m.timesReported_eq files cwd entries
  exists_reported _ := exists_reported_of_ne
  exactly_iff _ := reportsExactly_iff
  exactly_of_agree h := h.reportsExactly
  again_iff := apply_again_iff

/-- Entries that disagree about a file, as those of two targets that share it. -/
def disagreeing : List (Path × BuildSystemCompileInfo) :=
  [(.ofText "/a.c", { compilerPath := .ofText "/usr/bin/gcc", args := ["-O1"] }),
    (.ofText "/a.c", { compilerPath := .ofText "/usr/bin/gcc", args := ["-O2"] })]

/-- A file is reported twice, and again when nothing changes. -/
theorem disagreeing_reported_again :
    let first := apply {} ⟨[]⟩ [] disagreeing
    let again := first.1.apply ⟨[]⟩ [] disagreeing
    first.2 = [.ofText "/a.c", .ofText "/a.c"] ∧ again.2 = [.ofText "/a.c", .ofText "/a.c"] ∧
      again.1.info? (.ofText "/a.c") = first.1.info? (.ofText "/a.c") ∧
      ¬ReportsExactly {} ⟨[]⟩ [] disagreeing (.ofText "/a.c") ∧
      ¬first.1.ReportsExactly ⟨[]⟩ [] disagreeing (.ofText "/a.c") := by
  simp only [reportsExactly_iff]
  decide

end CompileManager

end AsmExplorer
