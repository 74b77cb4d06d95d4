import AsmExplorer.Data.Value
import AsmExplorer.View.Synchronizer

/-!
# View settings as data
-/

namespace AsmExplorer

/-- The fields of the settings of views. -/
def SyncSettings.fieldNames : List String :=
  ["dim_unused_source_lines", "recompile_debounce_ms"]

/-- Reads the settings of views from their fields. -/
def SyncSettings.ofFields? (f : Fields) : Option SyncSettings := do
  some
    { dimUnusedSourceLines := ← f.withDefault? "dim_unused_source_lines" Data.toBool? true
      recompileDebounceMs := ← f.withDefault? "recompile_debounce_ms" Data.toUInt64? 100 }

/-- Reads the settings of views. -/
def SyncSettings.ofData? (d : Data) : Option SyncSettings :=
  d.fields? fieldNames .refused >>= ofFields?

/-- Writes the settings of views. -/
def SyncSettings.toData (s : SyncSettings) : Data :=
  .record
    [("dim_unused_source_lines", .bool s.dimUnusedSourceLines),
      ("recompile_debounce_ms", .ofNat s.recompileDebounceMs.toNat)]

end AsmExplorer
