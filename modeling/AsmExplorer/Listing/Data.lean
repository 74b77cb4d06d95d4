import AsmExplorer.Data.Value
import AsmExplorer.Listing.Filters
import AsmExplorer.Listing.Line

/-!
# Listing lines and filters as data

Absent columns and sources are left out when written and may be `null` when read.
-/

namespace AsmExplorer

/-- Reads a path. -/
def Path.ofData? (d : Data) : Option Path :=
  d.toText?.map Path.ofText

/-- Writes a path.  Only a path that is a text can be written. -/
def Path.toData? (p : Path) : Option Data :=
  p.text?.map fun cs => .text (String.ofList cs)

/-- Writes the fields of a record that are there. -/
def Data.present (fields : List (String × Option Data)) : Data :=
  .record (fields.filterMap fun (name, value) => value.map (name, ·))

/-- Reads a location. -/
def SourceLocation.ofData? (d : Data) : Option SourceLocation := do
  let f ← d.fields? ["file", "line", "column"] .ignored
  some
    { file := ← f.required? "file" Path.ofData?
      line := ← f.required? "line" Data.toUInt32?
      column := ← f.optional? "column" Data.toUInt32? }

/-- Writes a location. -/
def SourceLocation.toData? (loc : SourceLocation) : Option Data := do
  let file ← loc.file.toData?
  some <| .present
    [("file", some file), ("line", some (.ofNat loc.line.toNat)),
      ("column", loc.column.map fun c => .ofNat c.toNat)]

/-- Reads a listing line. -/
def ParsedLine.ofData? (d : Data) : Option ParsedLine := do
  let f ← d.fields? ["text", "source"] .ignored
  some
    { text := ← f.required? "text" Data.toText?
      source := ← f.optional? "source" SourceLocation.ofData? }

/-- Writes a listing line. -/
def ParsedLine.toData? (line : ParsedLine) : Option Data := do
  let source ← line.source.mapM SourceLocation.toData?
  some <| .present [("text", some (.text line.text)), ("source", source)]

/-- The fields of filters. -/
def FilterOptions.fieldNames : List String :=
  ["labels", "library_code", "directives", "comment_only", "trim", "demangle", "intel",
    "debug_calls"]

/-- Reads filters from their fields. -/
def FilterOptions.ofFields? (f : Fields) : Option FilterOptions := do
  let flag (name : String) (default_ : Bool) : Option Bool :=
    f.withDefault? name Data.toBool? default_
  some
    { labels := ← flag "labels" true
      libraryCode := ← flag "library_code" false
      directives := ← flag "directives" true
      commentOnly := ← flag "comment_only" true
      trim := ← flag "trim" false
      demangle := ← flag "demangle" false
      intel := ← flag "intel" false
      debugCalls := ← flag "debug_calls" false }

/-- Reads filters. -/
def FilterOptions.ofData? (d : Data) : Option FilterOptions :=
  d.fields? fieldNames .refused >>= ofFields?

/-- Writes filters. -/
def FilterOptions.toData (o : FilterOptions) : Data :=
  .record
    [("labels", .bool o.labels), ("library_code", .bool o.libraryCode),
      ("directives", .bool o.directives), ("comment_only", .bool o.commentOnly),
      ("trim", .bool o.trim), ("demangle", .bool o.demangle), ("intel", .bool o.intel),
      ("debug_calls", .bool o.debugCalls)]

end AsmExplorer
