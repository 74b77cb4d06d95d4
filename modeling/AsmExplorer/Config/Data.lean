import AsmExplorer.Compiler.Data
import AsmExplorer.Config.Basic
import AsmExplorer.Data.Toml
import AsmExplorer.View.Data

/-!
# Configurations as TOML

`Config.ofToml?` reads a configuration from its text.  Unknown keys are refused on every level.
-/

namespace AsmExplorer

/-- Reads the kind of a compiler: its name, or a table that holds an empty table or list under the
name. -/
def CompilerKind.ofSetting? : Data → Option CompilerKind
  | .text name => ofName? name
  | .record [(name, .record [])] => ofName? name
  | .record [(name, .list [])] => ofName? name
  | _ => none

/-- Reads a compiler as configured. -/
def CompilerConfig.ofData? (d : Data) : Option CompilerConfig := do
  let f ← d.settings? CompilerInfo.fieldNames
  let flag (name : String) : Option (Option Bool) := f.optional? name Data.toBool?
  some
    { name := ← f.required? "name" Data.toText?
      kind := ← f.optional? "type" CompilerKind.ofSetting?
      exe := ← f.required? "exe" Path.ofData?
      args := ← f.withDefault? "args" textsOfData? []
      includeFlag := ← f.optional? "include_flag" Data.toText?
      includePaths := ← f.withDefault? "include_paths" textsOfData? []
      defineFlag := ← f.optional? "define_flag" Data.toText?
      defines := ← f.withDefault? "defines" textsOfData? []
      env := ← f.withDefault? "env" envOfData? []
      demangler := ← f.optional? "demangler" Path.ofData?
      demanglerArgs := ← f.withDefault? "demangler_args" textsOfData? []
      supportsDemangle := ← flag "supports_demangle"
      supportsIntel := ← flag "supports_intel"
      supportsLibraryCodeFilter := ← flag "supports_library_code_filter" }

/-- Reads the settings of one file. -/
def FileConfig.ofData? (d : Data) : Option FileConfig := do
  let f ← d.settings? ("file" :: CompilationInfo.fieldNames)
  some
    { file := ← f.withDefault? "file" Path.ofData? ⟨[]⟩
      info := ← CompilationInfo.ofFields? f }

namespace Config

/-- The fields of a configuration. -/
def fieldNames : List String :=
  ["compilers", "default_compile_info", "compile_info", "filters", "sync"]

/-- Reads a configuration. -/
def ofData? (d : Data) : Option Config := do
  let f ← d.settings? fieldNames
  some
    { compilers := ← f.withDefault? "compilers" (Data.toList? CompilerConfig.ofData?) []
      defaultInfo := ← f.optional? "default_compile_info" fun d =>
        d.settings? CompilationInfo.fieldNames >>= CompilationInfo.ofFields?
      files := ← f.withDefault? "compile_info" (Data.toList? FileConfig.ofData?) []
      filters := ← f.withDefault? "filters"
        (fun d => d.settings? FilterOptions.fieldNames >>= FilterOptions.ofFields?) {}
      sync := ← f.withDefault? "sync"
        (fun d => d.settings? SyncSettings.fieldNames >>= SyncSettings.ofFields?) {} }

/-- Reads a configuration from its text. -/
def ofToml? (text : String) : Option Config :=
  Toml.parse? text >>= ofData?

end Config

end AsmExplorer
