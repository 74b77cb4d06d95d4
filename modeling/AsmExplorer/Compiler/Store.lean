import AsmExplorer.Compiler.Info
import AsmExplorer.Data.Value

/-!
# Compiler and settings stores

`CompileInfoDatabase` keeps the settings of files, under the normal form of their paths, and
settings for all other files.  `CompilerRegistry` keeps compilers under their names, in sorted
order.
-/

namespace AsmExplorer

/-- The settings of files. -/
structure CompileInfoDatabase where
  /-- The settings by normalized path. -/
  entries : List (Path × CompilationInfo) := []
  /-- The settings of all other files. -/
  fallback : CompilationInfo := {}
deriving Inhabited

namespace CompileInfoDatabase

/-- The settings stored for a file. -/
def get? (db : CompileInfoDatabase) (file : Path) : Option CompilationInfo :=
  db.entries.lookup file.normalize

/-- The settings in force for a file, and whether they were stored for it. -/
def getOrDefault (db : CompileInfoDatabase) (file : Path) : CompilationInfo × Bool :=
  match db.get? file with
  | some info => (info, true)
  | none => (db.fallback, false)

/-- Puts a value under a key of a list of pairs, in the place of an earlier one. -/
def put (key : Path) (info : CompilationInfo) :
    List (Path × CompilationInfo) → List (Path × CompilationInfo)
  | [] => [(key, info)]
  | (k, v) :: rest => if k = key then (key, info) :: rest else (k, v) :: put key info rest

/-- Stores the settings of a file, and tells whether they differ from those before. -/
def set (db : CompileInfoDatabase) (file : Path) (info : CompilationInfo) :
    CompileInfoDatabase × Bool :=
  ({ db with entries := put file.normalize info db.entries }, db.get? file != some info)

/-- Removes the settings of a file, and returns them. -/
def remove (db : CompileInfoDatabase) (file : Path) :
    CompileInfoDatabase × Option CompilationInfo :=
  ({ db with entries := db.entries.filter (·.1 != file.normalize) }, db.get? file)

/-- The number of files with settings. -/
def size (db : CompileInfoDatabase) : Nat :=
  db.entries.length

end CompileInfoDatabase

/-- Compilers by name, sorted. -/
structure CompilerRegistry where
  /-- The compilers. -/
  compilers : List (String × CompilerInfo) := []
deriving Inhabited

namespace CompilerRegistry

/-- The names of all compilers, sorted. -/
def names (r : CompilerRegistry) : List String :=
  r.compilers.map (·.1)

/-- The compiler with a name. -/
def get? (r : CompilerRegistry) (name : String) : Option CompilerInfo :=
  r.compilers.lookup name

/-- Whether there is a compiler with a name. -/
def contains (r : CompilerRegistry) (name : String) : Bool :=
  (r.get? name).isSome

/-- Puts a compiler under its name, in the place of an earlier one. -/
def register (r : CompilerRegistry) (info : CompilerInfo) : CompilerRegistry :=
  ⟨insertSorted info.name info r.compilers⟩

/-- The compiler under the name of `info`, which is `info` itself if there was none. -/
def getOrRegister (r : CompilerRegistry) (info : CompilerInfo) : CompilerRegistry × CompilerInfo :=
  match r.get? info.name with
  | some existing => (r, existing)
  | none => (r.register info, info)

end CompilerRegistry

end AsmExplorer
