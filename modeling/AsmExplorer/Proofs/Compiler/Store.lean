import AsmExplorer.Proofs.Compiler.Endings
import AsmExplorer.Proofs.Data.SortedMap
import AsmExplorer.Proofs.Uri.Files

/-!
# The compile manager is a store

What a compile manager answers is determined by the calls that were made to it, and told without the
registry and the database that it keeps:

* `ManagerCall.stores`, `ManagerCall.offers` : the settings that a call stores, and the compilers
  that it offers, in order.
* `lastFor` : the settings stored last for a file under any spelling of its path; `firstNamed` : the
  compiler offered first under a name.
* `CompileManager.Records` : a manager holds just these, which every call keeps
  (`CompileManager.Records.after`) and so every run (`CompileManager.records_run`).

The settings that a build system reports name their compiler by the name of what the registry holds
for it.  That is the name under which it was looked for, since a compiler is only ever found under
its own name.

`CompileManager.run_refines` puts this together with the ways in which a compilation ends.
-/

namespace AsmExplorer

/-! ### The registry -/

namespace CompilerRegistry

variable (r : CompilerRegistry) (info : CompilerInfo)

/-- A name that is taken stays with its compiler, and no other name is touched. -/
theorem get?_getOrRegister (name : String) :
    (r.getOrRegister info).1.get? name =
      (r.get? name).or (if info.name = name then some info else none) := by
  unfold getOrRegister
  cases hget : r.get? info.name with
  | some existing =>
    by_cases hname : info.name = name
    · rw [← hname, hget]
      rfl
    · simp [hname]
  | none =>
    show (insertSorted info.name info r.compilers).lookup name = _
    rw [lookup_insertSorted]
    by_cases hname : info.name = name
    · rw [if_pos hname.symm, if_pos hname, ← hname, hget]
      rfl
    · rw [if_neg (Ne.symm hname), if_neg hname, Option.or_none]
      rfl

theorem getOrRegister_snd_eq :
    (r.getOrRegister info).1.get? info.name = some (r.getOrRegister info).2 := by
  rw [get?_getOrRegister, if_pos rfl, getOrRegister]
  cases r.get? info.name <;> rfl

theorem pairwise_names_getOrRegister (h : r.names.Pairwise (· < ·)) :
    (r.getOrRegister info).1.names.Pairwise (· < ·) := by
  unfold getOrRegister
  split
  · exact h
  · exact pairwise_insertSorted h _ _

end CompilerRegistry

/-! ### Calls -/

/-- The compiler of a build system, under the name that it is kept under. -/
def BuildSystemCompileInfo.compiler (reported : BuildSystemCompileInfo) (files : FileTree)
    (cwd : Names) : CompilerInfo :=
  { CompilerInfo.detect files cwd reported.compilerPath with
    name := compilerName reported.compilerPath }

/-- A call that changes what a compile manager holds. -/
inductive ManagerCall where
  /-- Adds a compiler. -/
  | add (info : CompilerInfo)
  /-- Sets the settings of a file. -/
  | setInfo (file : Path) (info : CompilationInfo)
  /-- Sets the settings of all other files. -/
  | setDefault (info : CompilationInfo)
  /-- Sets the filters. -/
  | setFilters (filters : FilterOptions)
  /-- Takes over what a build system says. -/
  | apply (files : FileTree) (cwd : Names) (entries : List (Path × BuildSystemCompileInfo))

namespace ManagerCall

/-- The compilers that a call offers to a manager. -/
def offers : ManagerCall → List CompilerInfo
  | add info => [info]
  | setInfo _ _ => []
  | setDefault _ => []
  | setFilters _ => []
  | apply files cwd entries => entries.map fun (_, reported) => reported.compiler files cwd

/-- The settings that a call stores for files. -/
def stores : ManagerCall → List (Path × CompilationInfo)
  | add _ => []
  | setInfo file info => [(file, info)]
  | setDefault _ => []
  | setFilters _ => []
  | apply _ _ entries =>
    entries.map fun (file, reported) =>
      (file, reported.settings (BuildSystemCompileInfo.compilerName reported.compilerPath))

/-- The settings of all other files, if a call sets them. -/
def fallback? : ManagerCall → Option CompilationInfo
  | setDefault info => some info
  | _ => none

/-- The filters, if a call sets them. -/
def filters? : ManagerCall → Option FilterOptions
  | setFilters filters => some filters
  | _ => none

end ManagerCall

/-- The settings stored last for a file, under any spelling of its path. -/
def lastFor (stored : List (Path × CompilationInfo)) (file : Path) : Option CompilationInfo :=
  (stored.reverse.find? fun entry => entry.1.normalize = file.normalize).map (·.2)

/-- The compiler offered first under a name. -/
def firstNamed (offered : List CompilerInfo) (name : String) : Option CompilerInfo :=
  offered.find? fun info => info.name = name

variable {stored : List (Path × CompilationInfo)} {offered : List CompilerInfo}

theorem lastFor_concat (stored : List (Path × CompilationInfo)) (entry : Path × CompilationInfo)
    (file : Path) :
    lastFor (stored ++ [entry]) file =
      if file.normalize = entry.1.normalize then some entry.2 else lastFor stored file := by
  rw [lastFor, List.reverse_concat, List.find?_cons]
  by_cases hfile : file.normalize = entry.1.normalize
  · simp [hfile]
  · simp [hfile, Ne.symm hfile, lastFor]

theorem isSome_lastFor_iff {file : Path} :
    (lastFor stored file).isSome = true ↔
      ∃ entry ∈ stored, entry.1.normalize = file.normalize := by
  rw [lastFor, Option.isSome_map, List.find?_isSome]
  simp only [List.mem_reverse, decide_eq_true_eq]

theorem firstNamed_concat (offered : List CompilerInfo) (info : CompilerInfo) (name : String) :
    firstNamed (offered ++ [info]) name =
      (firstNamed offered name).or (if info.name = name then some info else none) := by
  rw [firstNamed, List.find?_append, List.find?_singleton]
  simp only [decide_eq_true_eq]
  rfl

theorem firstNamed_name {name : String} {info : CompilerInfo}
    (h : firstNamed offered name = some info) : info.name = name := by
  simpa using List.find?_some h

theorem isSome_firstNamed_iff {name : String} :
    (firstNamed offered name).isSome = true ↔ ∃ info ∈ offered, info.name = name := by
  rw [firstNamed, List.find?_isSome]
  simp only [decide_eq_true_eq]

namespace CompileManager

/-- The manager after a call. -/
def after (m : CompileManager) : ManagerCall → CompileManager
  | .add info => (m.add info).1
  | .setInfo file info => (m.setInfo file info).1
  | .setDefault info => m.setDefault info
  | .setFilters filters => m.setFilters filters
  | .apply files cwd entries => (m.apply files cwd entries).1

/-- The manager after calls, in order. -/
def run (m : CompileManager) (calls : List ManagerCall) : CompileManager :=
  calls.foldl after m

variable {m : CompileManager}

theorem add_eq (m : CompileManager) (info : CompilerInfo) :
    (m.add info).1 = { m with registry := (m.registry.getOrRegister info).1 } := by
  rw [add, CompilerRegistry.contains, CompilerRegistry.getOrRegister]
  cases m.registry.get? info.name <;> rfl

/-! ### What a manager holds -/

/-- A manager holds the settings that were stored, and the compilers that were offered. -/
structure Records (m : CompileManager) (offered : List CompilerInfo)
    (stored : List (Path × CompilationInfo)) : Prop where
  info?_eq : ∀ file, m.info? file = lastFor stored file
  compiler?_eq : ∀ name, m.compiler? name = firstNamed offered name
  pairwise_names : m.names.Pairwise (· < ·)

theorem records_new (filters : FilterOptions) : Records { filters } [] [] where
  info?_eq _ := rfl
  compiler?_eq _ := rfl
  pairwise_names := List.Pairwise.nil

namespace Records

variable (h : Records m offered stored)
include h

theorem setInfo (file : Path) (info : CompilationInfo) :
    Records (m.setInfo file info).1 offered (stored ++ [(file, info)]) where
  info?_eq other := by
    rw [lastFor_concat, ← h.info?_eq]
    exact CompileInfoDatabase.lookup_put _ _ _ _
  compiler?_eq := h.compiler?_eq
  pairwise_names := h.pairwise_names

theorem register (info : CompilerInfo) :
    Records { m with registry := (m.registry.getOrRegister info).1 } (offered ++ [info])
      stored where
  info?_eq := h.info?_eq
  compiler?_eq name := by
    rw [firstNamed_concat, ← h.compiler?_eq]
    exact m.registry.get?_getOrRegister info name
  pairwise_names := m.registry.pairwise_names_getOrRegister info h.pairwise_names

theorem getOrRegister_name (info : CompilerInfo) :
    (m.registry.getOrRegister info).2.name = info.name :=
  firstNamed_name (((h.register info).compiler?_eq info.name).symm.trans
    (m.registry.getOrRegister_snd_eq info))

theorem applyEntry (files : FileTree) (cwd : Names) (file : Path)
    (reported : BuildSystemCompileInfo) :
    Records (m.applyEntry files cwd file reported).1 (offered ++ [reported.compiler files cwd])
      (stored ++ [(file,
        reported.settings (BuildSystemCompileInfo.compilerName reported.compilerPath))]) := by
  have hsettings :
      reported.settings (m.registry.getOrRegister (reported.compiler files cwd)).2.name =
        reported.settings (BuildSystemCompileInfo.compilerName reported.compilerPath) :=
    congrArg reported.settings (h.getOrRegister_name (reported.compiler files cwd))
  rw [← hsettings]
  exact (h.register (reported.compiler files cwd)).setInfo file _

/-- What a build system says is taken over entry by entry. -/
theorem apply (files : FileTree) (cwd : Names) (entries : List (Path × BuildSystemCompileInfo)) :
    Records (m.apply files cwd entries).1
      (offered ++ (ManagerCall.apply files cwd entries).offers)
      (stored ++ (ManagerCall.apply files cwd entries).stores) := by
  induction entries generalizing m offered stored with
  | nil =>
    rw [ManagerCall.offers, ManagerCall.stores, List.map_nil, List.map_nil, List.append_nil,
      List.append_nil]
    exact h
  | cons entry entries ih =>
    obtain ⟨file, reported⟩ := entry
    have hrest := ih (h.applyEntry files cwd file reported)
    rw [List.append_assoc, List.append_assoc] at hrest
    exact hrest

/-- **A manager holds what was stored and offered, also after a call.** -/
theorem after (call : ManagerCall) :
    Records (m.after call) (offered ++ call.offers) (stored ++ call.stores) := by
  cases call with
  | add info =>
    rw [CompileManager.after, add_eq, ManagerCall.stores, List.append_nil]
    exact h.register info
  | setInfo file info =>
    rw [ManagerCall.offers, List.append_nil]
    exact h.setInfo file info
  | setDefault info | setFilters filters =>
    rw [ManagerCall.offers, ManagerCall.stores, List.append_nil, List.append_nil]
    exact ⟨h.info?_eq, h.compiler?_eq, h.pairwise_names⟩
  | apply files cwd entries => exact h.apply files cwd entries

theorem run (calls : List ManagerCall) :
    Records (m.run calls) (offered ++ calls.flatMap ManagerCall.offers)
      (stored ++ calls.flatMap ManagerCall.stores) := by
  induction calls generalizing m offered stored with
  | nil =>
    rw [List.flatMap_nil, List.flatMap_nil, List.append_nil, List.append_nil]
    exact h
  | cons call calls ih =>
    have hrest := ih (h.after call)
    rw [List.append_assoc, List.append_assoc] at hrest
    exact hrest

end Records

/-- A manager holds what was stored and offered in any run of calls to it. -/
theorem records_run (filters : FilterOptions) (calls : List ManagerCall) :
    Records (run { filters } calls) (calls.flatMap ManagerCall.offers)
      (calls.flatMap ManagerCall.stores) :=
  (records_new filters).run calls

/-! ### What calls set -/

theorem apply_keeps (m : CompileManager) (files : FileTree) (cwd : Names)
    (entries : List (Path × BuildSystemCompileInfo)) :
    (m.apply files cwd entries).1.defaultInfo = m.defaultInfo ∧
      (m.apply files cwd entries).1.filters = m.filters := by
  induction entries generalizing m with
  | nil => exact ⟨rfl, rfl⟩
  | cons entry entries ih => exact ih (m.applyEntry files cwd entry.1 entry.2).1

theorem defaultInfo_after (m : CompileManager) (call : ManagerCall) :
    (m.after call).defaultInfo = call.fallback?.getD m.defaultInfo := by
  cases call with
  | add info =>
    rw [after, add_eq]
    rfl
  | setInfo file info | setDefault info | setFilters filters => rfl
  | apply files cwd entries => exact (m.apply_keeps files cwd entries).1

theorem filters_after (m : CompileManager) (call : ManagerCall) :
    (m.after call).filters = call.filters?.getD m.filters := by
  cases call with
  | add info =>
    rw [after, add_eq]
    rfl
  | setInfo file info | setDefault info | setFilters filters => rfl
  | apply files cwd entries => exact (m.apply_keeps files cwd entries).2

/-- What is kept unless a call sets it is as the last such call set it. -/
theorem run_eq_getLastD {α : Type} {get : CompileManager → α} {set? : ManagerCall → Option α}
    (h : ∀ m call, get (m.after call) = (set? call).getD (get m)) (m : CompileManager)
    (calls : List ManagerCall) :
    get (m.run calls) = (calls.filterMap set?).getLastD (get m) := by
  induction calls generalizing m with
  | nil => rfl
  | cons call calls ih =>
    have hrest : get (m.run (call :: calls)) = _ := ih (m.after call)
    rw [hrest, h]
    cases hcall : set? call with
    | none => rw [List.filterMap_cons_none hcall, Option.getD_none]
    | some a => rw [List.filterMap_cons_some hcall, List.getLastD_cons, Option.getD_some]

/-! ### Answers -/

/-- Settings of a file are those set for it, and the answer tells whether there was a change. -/
theorem setInfo_changed_iff (m : CompileManager) (file : Path) (info : CompilationInfo) :
    (m.setInfo file info).2 = true ↔ (m.setInfo file info).1.info? file ≠ m.info? file := by
  have hafter : (m.setInfo file info).1.info? file = some info :=
    (CompileInfoDatabase.lookup_put _ _ _ _).trans (if_pos rfl)
  have hchanged : (m.setInfo file info).2 = (m.info? file != some info) := rfl
  rw [hafter, hchanged, bne_iff_ne, ne_comm]

/-- What a manager with filters `filters` answers after the calls `calls`. -/
structure Refines (m : CompileManager) (filters : FilterOptions) (calls : List ManagerCall) :
    Prop where
  /-- A file has the settings that were stored last under any spelling of it. -/
  info?_eq : ∀ file, m.info? file = lastFor (calls.flatMap ManagerCall.stores) file
  setInfo_changed_iff : ∀ file info,
    (m.setInfo file info).2 = true ↔ (m.setInfo file info).1.info? file ≠ m.info? file
  /-- The names are those of all compilers that were offered, sorted, each once. -/
  pairwise_names : m.names.Pairwise (· < ·)
  mem_names_iff : ∀ name, name ∈ m.names ↔
    ∃ info ∈ calls.flatMap ManagerCall.offers, info.name = name
  /-- A name has the compiler that was offered first under it, and keeps it. -/
  compiler?_eq : ∀ name, m.compiler? name = firstNamed (calls.flatMap ManagerCall.offers) name
  compiler?_run : ∀ name info more, m.compiler? name = some info →
    (m.run more).compiler? name = some info
  defaultInfo_eq : m.defaultInfo = (calls.filterMap ManagerCall.fallback?).getLastD {}
  filters_eq : m.filters = (calls.filterMap ManagerCall.filters?).getLastD filters
  /-- A failure for a file with settings is plain. -/
  isPlain_of_stored : ∀ machine machine' file error,
    (∃ entry ∈ calls.flatMap ManagerCall.stores, entry.1.normalize = file.normalize) →
    m.compile machine file = (.error error, machine') → error.IsPlain
  /-- A failure for any other file is wrapped, once. -/
  underDefault_of_not_stored : ∀ machine machine' file error,
    (¬∃ entry ∈ calls.flatMap ManagerCall.stores, entry.1.normalize = file.normalize) →
    m.compile machine file = (.error error, machine') →
    ∃ inner, error = .underDefault inner ∧ inner.IsPlain

namespace Records

variable (h : Records m offered stored)
include h

theorem mem_names_iff {name : String} :
    name ∈ m.names ↔ ∃ info ∈ offered, info.name = name := by
  rw [← isSome_firstNamed_iff, ← h.compiler?_eq, compiler?, CompilerRegistry.get?,
    List.lookup_isSome_iff, names, CompilerRegistry.names, List.mem_map]
  simp only [beq_iff_eq, eq_comm (a := name)]

theorem isStored_iff {file : Path} :
    m.isStored file = true ↔ ∃ entry ∈ stored, entry.1.normalize = file.normalize := by
  rw [isStored, h.info?_eq, isSome_lastFor_iff]

/-- A compiler stays under its name, whatever is called. -/
theorem compiler?_run {name : String} {info : CompilerInfo} (hinfo : m.compiler? name = some info)
    (more : List ManagerCall) : (m.run more).compiler? name = some info := by
  rw [h.compiler?_eq] at hinfo
  rw [(h.run more).compiler?_eq, firstNamed, List.find?_append, ← firstNamed, hinfo,
    Option.some_or]

end Records

/-- **The compile manager refines a store**, for any run of calls. -/
theorem run_refines (filters : FilterOptions) (calls : List ManagerCall) :
    (run { filters } calls).Refines filters calls := by
  have hrecords := records_run filters calls
  refine ⟨hrecords.info?_eq, setInfo_changed_iff _, hrecords.pairwise_names,
    fun _ => hrecords.mem_names_iff, hrecords.compiler?_eq, ?kept,
    run_eq_getLastD defaultInfo_after _ calls, run_eq_getLastD filters_after _ calls, ?plain,
    ?wrapped⟩
  case kept =>
    intro name info more hinfo
    exact hrecords.compiler?_run hinfo more
  case plain =>
    intro machine machine' file error hstored hcompile
    obtain ⟨inner, hinner, rfl⟩ := exists_wrap_of_compile hcompile
    rwa [hrecords.isStored_iff.2 hstored]
  case wrapped =>
    intro machine machine' file error hstored hcompile
    obtain ⟨inner, hinner, rfl⟩ := exists_wrap_of_compile hcompile
    rw [Bool.eq_false_iff.2 (mt hrecords.isStored_iff.1 hstored)]
    exact ⟨inner, rfl, hinner⟩

example :
    let m := run {} [.setInfo (.ofText "/src/./lib/../main.c") { compilerName := "gcc" }]
    m.info? (.ofText "/src/main.c") = some { compilerName := "gcc" } ∧
      m.info? (.ofText "main.c") = none := by
  decide

end CompileManager

end AsmExplorer
