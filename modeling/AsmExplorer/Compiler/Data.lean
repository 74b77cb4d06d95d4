import AsmExplorer.Compiler.Info
import AsmExplorer.Listing.Data

/-!
# Compilers and compile settings as data
-/

namespace AsmExplorer

/-- Reads the kind of a compiler: its name, or a record that holds `null` under the name. -/
def CompilerKind.ofData? : Data → Option CompilerKind
  | .text name => ofName? name
  | .record [(name, .null)] => ofName? name
  | _ => none

/-- Reads texts by name and sorts them. -/
def envOfData? (d : Data) : Option (List (String × String)) :=
  (d.toMap? Data.toText?).map sortedMap

/-- Writes texts by name. -/
def envToData (env : List (String × String)) : Data :=
  .record (env.map fun (name, value) => (name, .text value))

/-- Reads a list of texts. -/
def textsOfData? (d : Data) : Option (List String) :=
  d.toList? Data.toText?

/-- The fields of a compiler, in order. -/
def CompilerInfo.fieldNames : List String :=
  ["name", "type", "exe", "args", "include_flag", "include_paths", "define_flag", "defines", "env",
    "demangler", "demangler_args", "supports_demangle", "supports_intel",
    "supports_library_code_filter"]

/-- Reads a compiler. -/
def CompilerInfo.ofData? (d : Data) : Option CompilerInfo := do
  let f ← d.fields? CompilerInfo.fieldNames .refused
  some
    { name := ← f.required? "name" Data.toText?
      kind := ← f.withDefault? "type" CompilerKind.ofData? .gcc
      exe := ← f.required? "exe" Path.ofData?
      args := ← f.withDefault? "args" textsOfData? []
      includeFlag := ← f.optional? "include_flag" Data.toText?
      includePaths := ← f.withDefault? "include_paths" textsOfData? []
      defineFlag := ← f.optional? "define_flag" Data.toText?
      defines := ← f.withDefault? "defines" textsOfData? []
      env := ← f.withDefault? "env" envOfData? []
      demangler := ← f.optional? "demangler" Path.ofData?
      demanglerArgs := ← f.withDefault? "demangler_args" textsOfData? []
      supportsDemangle := ← f.withDefault? "supports_demangle" Data.toBool? false
      supportsIntel := ← f.withDefault? "supports_intel" Data.toBool? false
      supportsLibraryCodeFilter :=
        ← f.withDefault? "supports_library_code_filter" Data.toBool? false }

/-- Writes a compiler. -/
def CompilerInfo.toData? (info : CompilerInfo) : Option Data := do
  let exe ← info.exe.toData?
  let demangler ← info.demangler.mapM Path.toData?
  some <| .present
    [("name", some (.text info.name)), ("type", some (.text info.kind.name)),
      ("exe", some exe), ("args", some (.texts info.args)),
      ("include_flag", info.includeFlag.map .text),
      ("include_paths", some (.texts info.includePaths)),
      ("define_flag", info.defineFlag.map .text), ("defines", some (.texts info.defines)),
      ("env", some (envToData info.env)), ("demangler", demangler),
      ("demangler_args", some (.texts info.demanglerArgs)),
      ("supports_demangle", some (.bool info.supportsDemangle)),
      ("supports_intel", some (.bool info.supportsIntel)),
      ("supports_library_code_filter", some (.bool info.supportsLibraryCodeFilter))]

/-- The fields of the settings of a file. -/
def CompilationInfo.fieldNames : List String :=
  ["compiler_name", "defines", "includes", "args"]

/-- Reads the settings of a file from their fields. -/
def CompilationInfo.ofFields? (f : Fields) : Option CompilationInfo := do
  some
    { compilerName := ← f.withDefault? "compiler_name" Data.toText? ""
      defines := ← f.withDefault? "defines" textsOfData? []
      includes := ← f.withDefault? "includes" textsOfData? []
      args := ← f.withDefault? "args" textsOfData? [] }

/-- Reads the settings of a file. -/
def CompilationInfo.ofData? (d : Data) : Option CompilationInfo :=
  d.fields? fieldNames .refused >>= ofFields?

/-- Writes the settings of a file. -/
def CompilationInfo.toData (info : CompilationInfo) : Data :=
  .record
    [("compiler_name", .text info.compilerName), ("defines", .texts info.defines),
      ("includes", .texts info.includes), ("args", .texts info.args)]

/-- Reads what a build system says about a file. -/
def BuildSystemCompileInfo.ofData? (d : Data) : Option BuildSystemCompileInfo := do
  let f ← d.fields? ["compiler_path", "defines", "includes", "args"] .ignored
  some
    { compilerPath := ← f.withDefault? "compiler_path" Path.ofData? ⟨[]⟩
      defines := ← f.withDefault? "defines" textsOfData? []
      includes := ← f.withDefault? "includes" textsOfData? []
      args := ← f.withDefault? "args" textsOfData? [] }

/-- Writes what a build system says about a file. -/
def BuildSystemCompileInfo.toData? (reported : BuildSystemCompileInfo) : Option Data := do
  let compilerPath ← reported.compilerPath.toData?
  some <| .record
    [("compiler_path", compilerPath), ("defines", .texts reported.defines),
      ("includes", .texts reported.includes), ("args", .texts reported.args)]

end AsmExplorer
