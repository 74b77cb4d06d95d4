import AsmExplorer.Compiler.Data
import AsmExplorer.Proofs.Data.Records
import AsmExplorer.Proofs.Data.SortedMap
import AsmExplorer.Proofs.Text.Decoding
import AsmExplorer.View.Data

/-!
# What is written as JSON is read back

Listing lines, compilers, compile settings, filters and the settings of views are written as records
and read from them (`json_reads_back`).  `RoundTrip` says what that means for one kind of values:
absent fields are left out, missing ones take defaults, and a value comes back from what is written
for it, whatever data it was read from in the first place.

JSON holds texts only, so a value is written exactly if its paths are texts (`Path.IsText`).
Whatever is read has such paths.  The environment of a compiler is a map, and so the only part with
a condition on it: its names are in order, each once, which is how it is always read.
-/

namespace AsmExplorer

/-! ### Reading back -/

section RoundTrip

variable {α : Type}

/-- A value is read from what is written for it: as data, and as JSON text of either form. -/
def ReadBack (read? : Data → Option α) (written : Data) (a : α) : Prop :=
  read? written = some a ∧
    ∀ text ∈ [Json.compact written, Json.pretty written],
      (Json.parse? text).bind read? = some a

/-- Values are written as records with the given names of fields and read from them; missing fields
have the given defaults. -/
structure RoundTrip (Writable Valid : α → Prop) (names : List String)
    (defaults : List (String × Data)) (read? : Data → Option α) (write? : α → Option Data) :
    Prop where
  /-- Nothing but what cannot be written is refused. -/
  writes_iff (a : α) : (∃ d, write? a = some d) ↔ Writable a
  /-- What is absent is not written. -/
  complete {a : α} {d : Data} (h : write? a = some d) : d.Complete
  /-- A missing field takes its default. -/
  filled {d d' : Data} (h : d.FillsIn names defaults d') : read? d' = read? d
  /-- Every value is read back. -/
  readBack {a : α} {d : Data} (h : Valid a) (hwrite : write? a = some d) : ReadBack read? d a
  /-- Whatever is accepted is read as a value that is written and read back. -/
  accepted {d : Data} {a : α} (h : read? d = some a) :
    Valid a ∧ ∃ d', write? a = some d' ∧ ReadBack read? d' a

variable {read? : Data → Option α} {write? : α → Option Data}

theorem readBack_of_complete {a : α} {d : Data} (hcomplete : d.Complete) (h : read? d = some a) :
    ReadBack read? d a := by
  have hplain := hcomplete.plain
  refine ⟨h, fun text htext => ?_⟩
  obtain rfl | rfl : text = Json.compact d ∨ text = Json.pretty d := by
    simpa using htext
  · rw [Json.parse?_compact hplain, Option.bind_some, h]
  · rw [Json.parse?_pretty hplain, Option.bind_some, h]

/-- It is enough that data is read back, and that what is read is valid and can be written. -/
theorem RoundTrip.of_reads {Writable Valid : α → Prop} {names : List String}
    {defaults : List (String × Data)} (hwrites : ∀ a, (∃ d, write? a = some d) ↔ Writable a)
    (hcomplete : ∀ {a d}, write? a = some d → d.Complete)
    (hfilled : ∀ {d d'}, d.FillsIn names defaults d' → read? d' = read? d)
    (hreads : ∀ {a d}, Valid a → write? a = some d → read? d = some a)
    (hvalid : ∀ {d a}, read? d = some a → Writable a ∧ Valid a) :
    RoundTrip Writable Valid names defaults read? write? where
  writes_iff := hwrites
  complete := hcomplete
  filled := hfilled
  readBack h hwrite := readBack_of_complete (hcomplete hwrite) (hreads h hwrite)
  accepted {_ a} h := by
    obtain ⟨hwritable, hvalid⟩ := hvalid h
    obtain ⟨d', hd'⟩ := (hwrites a).2 hwritable
    exact ⟨hvalid, d', hd', readBack_of_complete (hcomplete hd') (hreads hvalid hd')⟩

/-- Values without paths can always be written. -/
theorem RoundTrip.of_total {names : List String} {defaults : List (String × Data)}
    {write : α → Data} (hcomplete : ∀ a, (write a).Complete)
    (hfilled : ∀ {d d'}, d.FillsIn names defaults d' → read? d' = read? d)
    (hreads : ∀ a, read? (write a) = some a) :
    RoundTrip (fun _ => True) (fun _ => True) names defaults read? (some ∘ write) :=
  .of_reads (fun a => iff_true_intro ⟨write a, rfl⟩)
    (fun {a d} h => by rw [← Option.some.inj h]; exact hcomplete a) hfilled
    (fun {a d} _ h => by rw [← Option.some.inj h]; exact hreads a) fun _ => ⟨trivial, trivial⟩

theorem exists_written_iff {β : Type} {part : Option β} {write : β → Data} :
    (∃ d b, part = some b ∧ d = write b) ↔ ∃ b, part = some b :=
  ⟨fun ⟨_, b, hb, _⟩ => ⟨b, hb⟩, fun ⟨b, hb⟩ => ⟨_, b, hb, rfl⟩⟩

theorem exists_mapM_iff {o : Option α} :
    (∃ written, o.mapM write? = some written) ↔ ∀ a ∈ o, ∃ d, write? a = some d := by
  cases o with
  | none => simp
  | some a => simp

end RoundTrip

/-! ### Paths -/

namespace Path

variable {p : Path} {d : Data}

/-- A path that is spelled by a text. -/
def IsText (p : Path) : Prop :=
  ∃ cs, p = ofChars cs

theorem toData?_eq_some_iff :
    p.toData? = some d ↔ ∃ cs, p = ofChars cs ∧ d = .text (String.ofList cs) := by
  rw [toData?, Option.map_eq_some_iff]
  constructor
  · rintro ⟨cs, hcs, rfl⟩
    exact ⟨cs, congrArg mk (Text.decode?_eq_some_iff.1 hcs), rfl⟩
  · rintro ⟨cs, rfl, rfl⟩
    exact ⟨cs, Text.decode?_utf8 cs, rfl⟩

theorem exists_toData?_iff : (∃ d, p.toData? = some d) ↔ p.IsText := by
  simp [toData?_eq_some_iff, IsText]

theorem complete_toData? (h : p.toData? = some d) : d.Complete := by
  obtain ⟨cs, -, rfl⟩ := toData?_eq_some_iff.1 h
  exact .text _

theorem ofData?_toData? (h : p.toData? = some d) : ofData? d = some p := by
  obtain ⟨cs, rfl, rfl⟩ := toData?_eq_some_iff.1 h
  rw [ofData?, Data.toText?, Option.map_some, ofText, Text.bytes, String.toList_ofList, ofChars]

theorem isText_ofText (s : String) : (ofText s).IsText :=
  ⟨s.toList, rfl⟩

theorem isText_of_ofData? (h : ofData? d = some p) : p.IsText := by
  obtain ⟨s, -, rfl⟩ := Option.map_eq_some_iff.1 h
  exact isText_ofText s

end Path

/-! ### Parts -/

@[simp] theorem CompilerKind.ofData?_name (kind : CompilerKind) :
    ofData? (.text kind.name) = some kind := by
  cases kind <;> rfl

@[simp] theorem textsOfData?_texts (items : List String) :
    textsOfData? (.texts items) = some items :=
  have hread (s : String) : (Data.text s).toText? = some s := rfl
  Data.toList?_ofList hread items

theorem Fields.bool_of_get? {f : Fields} {name : String} {b default_ : Bool}
    (hget : f.get? name = some (.bool b)) : f.withDefault? name Data.toBool? default_ = some b :=
  withDefault?_of_get? hget rfl

theorem Fields.texts_of_get? {f : Fields} {name : String} {items default_ : List String}
    (hget : f.get? name = some (.texts items)) :
    f.withDefault? name textsOfData? default_ = some items :=
  withDefault?_of_get? hget (textsOfData?_texts items)

@[simp] theorem textsOfData?_nil : textsOfData? (.list []) = some [] :=
  rfl

@[simp] theorem complete_envToData (env : List (String × String)) : (envToData env).Complete :=
  .record (List.forall_mem_map.2 fun e _ => .text e.2)

theorem envOfData?_envToData {env : List (String × String)}
    (h : (env.map (·.1)).Pairwise (· < ·)) : envOfData? (envToData env) = some env := by
  have hmap : (envToData env).toMap? Data.toText? = some env := by
    clear h
    rw [envToData, Data.toMap?]
    induction env with
    | nil => rfl
    | cons e env ih =>
      rw [List.map_cons, List.mapM_cons, ih]
      rfl
  rw [envOfData?, hmap, Option.map_some, sortedMap_eq_self h]

theorem pairwise_envOfData? {d : Data} {env : List (String × String)}
    (h : envOfData? d = some env) : (env.map (·.1)).Pairwise (· < ·) := by
  obtain ⟨pairs, -, rfl⟩ := Option.map_eq_some_iff.1 h
  exact pairwise_sortedMap pairs

/-! ### Listing lines -/

namespace SourceLocation

variable {loc : SourceLocation} {d : Data}

theorem toData?_eq_some_iff :
    loc.toData? = some d ↔ ∃ file, loc.file.toData? = some file ∧ d = .present
      [("file", some file), ("line", some (.ofNat loc.line.toNat)),
        ("column", loc.column.map fun c => .ofNat c.toNat)] := by
  simp only [toData?, Option.bind_eq_bind, Option.bind_eq_some_iff, Option.some.injEq,
    eq_comm (b := d)]

theorem ofData?_toData? (h : loc.toData? = some d) : ofData? d = some loc := by
  obtain ⟨file, hwritten, hd⟩ := toData?_eq_some_iff.1 h
  obtain ⟨f, hf, hget⟩ :=
    Data.fields?_present ["file", "line", "column"] hd rfl (by decide) .ignored
  have hfile : f.required? "file" Path.ofData? = some loc.file :=
    Fields.required?_of_get? (hget _) (Path.ofData?_toData? hwritten)
  have hline : f.required? "line" Data.toUInt32? = some loc.line :=
    Fields.required?_of_get? (hget _) (Data.toUInt32?_ofNat loc.line)
  have hcolumn : f.optional? "column" Data.toUInt32? = some loc.column :=
    Fields.optional?_of_get? (hget _) (fun n => Data.complete_ofNat n.toNat) Data.toUInt32?_ofNat
  simp only [ofData?, hf, hfile, hline, hcolumn, Option.bind_eq_bind, Option.bind_some]

theorem isText_of_ofData? (h : ofData? d = some loc) : loc.file.IsText := by
  rw [ofData?] at h
  -- the record first, then its three fields
  iterate 4 obtain ⟨_, _, h⟩ := Option.bind_eq_some_iff.1 h
  obtain rfl := Option.some.inj h
  exact Fields.of_required? Path.isText_of_ofData? ‹_›

theorem roundTrip :
    RoundTrip (fun loc => loc.file.IsText) (fun _ => True) ["file", "line", "column"]
      [("column", .null)] ofData? toData? := by
  refine .of_reads (fun loc => ?_) (fun h => ?_) (fun h => ?_) (fun _ => ofData?_toData?)
    fun h => ⟨isText_of_ofData? h, trivial⟩
  · simp only [toData?_eq_some_iff, exists_written_iff, Path.exists_toData?_iff]
  · obtain ⟨file, hwritten, rfl⟩ := toData?_eq_some_iff.1 h
    exact Data.complete_present (by simp [Path.complete_toData? hwritten])
  · refine h.bind_fields? (by decide) (by simp) _ fun f e he hnew => ?_
    rw [Fields.required?_set he (by simp), Fields.required?_set he (by simp),
      Fields.optional?_set he hnew (by simp)]

end SourceLocation

namespace ParsedLine

variable {line : ParsedLine} {d : Data}

theorem toData?_eq_some_iff :
    line.toData? = some d ↔ ∃ source, line.source.mapM SourceLocation.toData? = some source ∧
      d = .present [("text", some (.text line.text)), ("source", source)] := by
  simp only [toData?, Option.bind_eq_bind, Option.bind_eq_some_iff, Option.some.injEq,
    eq_comm (b := d)]

theorem ofData?_toData? (h : line.toData? = some d) : ofData? d = some line := by
  obtain ⟨source, hwritten, hd⟩ := toData?_eq_some_iff.1 h
  obtain ⟨f, hf, hget⟩ := Data.fields?_present ["text", "source"] hd rfl (by decide) .ignored
  have htext : f.required? "text" Data.toText? = some line.text :=
    Fields.required?_of_get? (hget _) rfl
  have hsource : f.optional? "source" SourceLocation.ofData? = some line.source :=
    Fields.optional?_of_mapM (hget _) hwritten SourceLocation.roundTrip.complete
      SourceLocation.ofData?_toData?
  simp only [ofData?, hf, htext, hsource, Option.bind_eq_bind, Option.bind_some]

theorem isText_of_ofData? (h : ofData? d = some line) :
    ∀ loc ∈ line.source, loc.file.IsText := by
  rw [ofData?] at h
  iterate 3 obtain ⟨_, _, h⟩ := Option.bind_eq_some_iff.1 h
  obtain rfl := Option.some.inj h
  exact Fields.of_optional? SourceLocation.isText_of_ofData? ‹_›

theorem roundTrip :
    RoundTrip (fun line => ∀ loc ∈ line.source, loc.file.IsText) (fun _ => True)
      ["text", "source"] [("source", .null)] ofData? toData? := by
  refine .of_reads (fun line => ?_) (fun h => ?_) (fun h => ?_) (fun _ => ofData?_toData?)
    fun h => ⟨isText_of_ofData? h, trivial⟩
  · simp only [toData?_eq_some_iff, exists_written_iff, exists_mapM_iff,
      SourceLocation.roundTrip.writes_iff]
  · obtain ⟨source, hwritten, rfl⟩ := toData?_eq_some_iff.1 h
    exact Data.complete_present
      (by simpa using Data.complete_of_mapM hwritten SourceLocation.roundTrip.complete)
  · refine h.bind_fields? (by decide) (by simp) _ fun f e he hnew => ?_
    rw [Fields.required?_set he (by simp), Fields.optional?_set he hnew (by simp)]

end ParsedLine

/-! ### Settings -/

/-- The filters that apply when nothing is said. -/
def FilterOptions.defaults : List (String × Data) :=
  [("labels", .bool true), ("library_code", .bool false), ("directives", .bool true),
    ("comment_only", .bool true), ("trim", .bool false), ("demangle", .bool false),
    ("intel", .bool false), ("debug_calls", .bool false)]

theorem FilterOptions.ofData?_toData (o : FilterOptions) : ofData? o.toData = some o := by
  obtain ⟨f, hf, hget⟩ :=
    Data.fields?_record fieldNames (d := o.toData) rfl rfl (by decide) .refused
  rw [ofData?, hf, Option.bind_eq_bind, Option.bind_some]
  dsimp only [ofFields?]
  rw [Fields.bool_of_get? (hget "labels"), Fields.bool_of_get? (hget "library_code"),
    Fields.bool_of_get? (hget "directives"), Fields.bool_of_get? (hget "comment_only"),
    Fields.bool_of_get? (hget "trim"), Fields.bool_of_get? (hget "demangle"),
    Fields.bool_of_get? (hget "intel"), Fields.bool_of_get? (hget "debug_calls")]
  rfl

theorem FilterOptions.roundTrip :
    RoundTrip (fun _ => True) (fun _ => True) fieldNames defaults FilterOptions.ofData?
      (some ∘ FilterOptions.toData) := by
  refine .of_total (fun _ => ?_) (fun h => ?_) ofData?_toData
  · exact .record (by simp)
  · refine h.bind_fields? (by decide) (by decide) _ fun f e he hnew => ?_
    dsimp only [ofFields?]
    repeat rw [Fields.withDefault?_set he hnew (by simp [defaults, Data.toBool?])]

/-- The settings of views when nothing is said. -/
def SyncSettings.defaults : List (String × Data) :=
  [("dim_unused_source_lines", .bool true), ("recompile_debounce_ms", .integer 100)]

theorem SyncSettings.ofData?_toData (s : SyncSettings) : ofData? s.toData = some s := by
  obtain ⟨f, hf, hget⟩ :=
    Data.fields?_record fieldNames (d := s.toData) rfl rfl (by decide) .refused
  have hwait : f.withDefault? "recompile_debounce_ms" Data.toUInt64? 100 =
      some s.recompileDebounceMs :=
    Fields.withDefault?_of_get? (hget _) (Data.toUInt64?_ofNat s.recompileDebounceMs)
  rw [ofData?, hf, Option.bind_eq_bind, Option.bind_some, ofFields?,
    Fields.bool_of_get? (hget "dim_unused_source_lines"), hwait]
  rfl

theorem SyncSettings.roundTrip :
    RoundTrip (fun _ => True) (fun _ => True) fieldNames defaults SyncSettings.ofData?
      (some ∘ SyncSettings.toData) := by
  refine .of_total (fun _ => ?_) (fun h => ?_) ofData?_toData
  · exact .record (by simp)
  · have hms : (Data.integer 100).toUInt64? = some 100 := Data.toUInt64?_ofNat 100
    refine h.bind_fields? (by decide) (by decide) _ fun f e he hnew => ?_
    dsimp only [ofFields?]
    repeat rw [Fields.withDefault?_set he hnew (by simp [defaults, Data.toBool?, hms])]

/-- The settings of a file when nothing is said. -/
def CompilationInfo.defaults : List (String × Data) :=
  [("compiler_name", .text ""), ("defines", .list []), ("includes", .list []), ("args", .list [])]

theorem CompilationInfo.ofData?_toData (info : CompilationInfo) :
    ofData? info.toData = some info := by
  obtain ⟨f, hf, hget⟩ :=
    Data.fields?_record fieldNames (d := info.toData) rfl rfl (by decide) .refused
  have hname : f.withDefault? "compiler_name" Data.toText? "" = some info.compilerName :=
    Fields.withDefault?_of_get? (hget _) rfl
  rw [ofData?, hf, Option.bind_eq_bind, Option.bind_some, ofFields?, hname,
    Fields.texts_of_get? (hget "defines"), Fields.texts_of_get? (hget "includes"),
    Fields.texts_of_get? (hget "args")]
  rfl

theorem CompilationInfo.roundTrip :
    RoundTrip (fun _ => True) (fun _ => True) fieldNames defaults CompilationInfo.ofData?
      (some ∘ CompilationInfo.toData) := by
  refine .of_total (fun _ => ?_) (fun h => ?_) ofData?_toData
  · exact .record (by simp)
  · refine h.bind_fields? (by decide) (by decide) _ fun f e he hnew => ?_
    dsimp only [ofFields?]
    repeat rw [Fields.withDefault?_set he hnew (by simp [defaults, Data.toText?])]

/-- The fields of what a build system says about a file. -/
def BuildSystemCompileInfo.fieldNames : List String :=
  ["compiler_path", "defines", "includes", "args"]

/-- What a build system says when it says nothing. -/
def BuildSystemCompileInfo.defaults : List (String × Data) :=
  [("compiler_path", .text ""), ("defines", .list []), ("includes", .list []), ("args", .list [])]

namespace BuildSystemCompileInfo

variable {reported : BuildSystemCompileInfo} {d : Data}

theorem toData?_eq_some_iff :
    reported.toData? = some d ↔ ∃ path, reported.compilerPath.toData? = some path ∧
      d = .record [("compiler_path", path), ("defines", .texts reported.defines),
        ("includes", .texts reported.includes), ("args", .texts reported.args)] := by
  simp only [toData?, Option.bind_eq_bind, Option.bind_eq_some_iff, Option.some.injEq,
    eq_comm (b := d)]

theorem ofData?_toData? (h : reported.toData? = some d) : ofData? d = some reported := by
  obtain ⟨path, hwritten, hd⟩ := toData?_eq_some_iff.1 h
  obtain ⟨f, hf, hget⟩ := Data.fields?_record fieldNames hd rfl (by decide) .ignored
  rw [fieldNames] at hf
  have hpath : f.withDefault? "compiler_path" Path.ofData? ⟨[]⟩ = some reported.compilerPath :=
    Fields.withDefault?_of_get? (hget _) (Path.ofData?_toData? hwritten)
  rw [ofData?, hf, Option.bind_eq_bind, Option.bind_some, hpath,
    Fields.texts_of_get? (hget "defines"), Fields.texts_of_get? (hget "includes"),
    Fields.texts_of_get? (hget "args")]
  rfl

theorem isText_of_ofData? (h : ofData? d = some reported) : reported.compilerPath.IsText := by
  rw [ofData?] at h
  iterate 5 obtain ⟨_, _, h⟩ := Option.bind_eq_some_iff.1 h
  obtain rfl := Option.some.inj h
  exact Fields.of_withDefault? Path.isText_of_ofData? (Path.isText_ofText "") ‹_›

theorem roundTrip :
    RoundTrip (fun reported => reported.compilerPath.IsText) (fun _ => True) fieldNames defaults
      ofData? toData? := by
  refine .of_reads (fun reported => ?_) (fun h => ?_) (fun h => ?_) (fun _ => ofData?_toData?)
    fun h => ⟨isText_of_ofData? h, trivial⟩
  · simp only [toData?_eq_some_iff, exists_written_iff, Path.exists_toData?_iff]
  · obtain ⟨path, hwritten, rfl⟩ := toData?_eq_some_iff.1 h
    exact .record (by simp [Path.complete_toData? hwritten])
  · have hpath : Path.ofData? (.text "") = some ⟨[]⟩ := rfl
    refine h.bind_fields? (by decide) (by decide) _ fun f e he hnew => ?_
    repeat rw [Fields.withDefault?_set he hnew (by simp [defaults, hpath])]

end BuildSystemCompileInfo

/-! ### Compilers -/

/-- What holds of a compiler when only its name and its executable are given. -/
def CompilerInfo.defaults : List (String × Data) :=
  [("type", .text "gcc"), ("args", .list []), ("include_flag", .null), ("include_paths", .list []),
    ("define_flag", .null), ("defines", .list []), ("env", .record []), ("demangler", .null),
    ("demangler_args", .list []), ("supports_demangle", .bool false),
    ("supports_intel", .bool false), ("supports_library_code_filter", .bool false)]

namespace CompilerInfo

variable {info : CompilerInfo} {d : Data}

/-- The fields of a compiler with its paths as data. -/
def written (info : CompilerInfo) (exe : Data) (demangler : Option Data) :
    List (String × Option Data) :=
  [("name", some (.text info.name)), ("type", some (.text info.kind.name)),
    ("exe", some exe), ("args", some (.texts info.args)),
    ("include_flag", info.includeFlag.map .text),
    ("include_paths", some (.texts info.includePaths)),
    ("define_flag", info.defineFlag.map .text), ("defines", some (.texts info.defines)),
    ("env", some (envToData info.env)), ("demangler", demangler),
    ("demangler_args", some (.texts info.demanglerArgs)),
    ("supports_demangle", some (.bool info.supportsDemangle)),
    ("supports_intel", some (.bool info.supportsIntel)),
    ("supports_library_code_filter", some (.bool info.supportsLibraryCodeFilter))]

theorem toData?_eq_some_iff :
    info.toData? = some d ↔ ∃ exe, info.exe.toData? = some exe ∧ ∃ demangler,
      info.demangler.mapM Path.toData? = some demangler ∧
      d = .present (info.written exe demangler) := by
  simp only [toData?, Option.bind_eq_bind, Option.bind_eq_some_iff, Option.some.injEq,
    eq_comm (b := d), written]

theorem ofData?_toData? (h : (info.env.map (·.1)).Pairwise (· < ·)) (hd : info.toData? = some d) :
    ofData? d = some info := by
  obtain ⟨exe, hexecutable, demangler, hwritten, hd⟩ := toData?_eq_some_iff.1 hd
  obtain ⟨f, hf, hget⟩ := Data.fields?_present fieldNames hd rfl (by decide) .refused
  have hname : f.required? "name" Data.toText? = some info.name :=
    Fields.required?_of_get? (hget _) rfl
  have hkind : f.withDefault? "type" CompilerKind.ofData? .gcc = some info.kind :=
    Fields.withDefault?_of_get? (hget _) info.kind.ofData?_name
  have hexe : f.required? "exe" Path.ofData? = some info.exe :=
    Fields.required?_of_get? (hget _) (Path.ofData?_toData? hexecutable)
  have hinclude : f.optional? "include_flag" Data.toText? = some info.includeFlag :=
    Fields.optional?_of_get? (hget _) .text fun _ => rfl
  have hdefine : f.optional? "define_flag" Data.toText? = some info.defineFlag :=
    Fields.optional?_of_get? (hget _) .text fun _ => rfl
  have henv : f.withDefault? "env" envOfData? [] = some info.env :=
    Fields.withDefault?_of_get? (hget _) (envOfData?_envToData h)
  have hdemangler : f.optional? "demangler" Path.ofData? = some info.demangler :=
    Fields.optional?_of_mapM (hget _) hwritten Path.complete_toData? Path.ofData?_toData?
  rw [ofData?, hf, Option.bind_eq_bind, Option.bind_some, hname, hkind, hexe,
    Fields.texts_of_get? (hget "args"), hinclude, Fields.texts_of_get? (hget "include_paths"),
    hdefine, Fields.texts_of_get? (hget "defines"), henv, hdemangler,
    Fields.texts_of_get? (hget "demangler_args"), Fields.bool_of_get? (hget "supports_demangle"),
    Fields.bool_of_get? (hget "supports_intel"),
    Fields.bool_of_get? (hget "supports_library_code_filter")]
  rfl

/-- The paths of a compiler are read as texts, and its environment as a map. -/
theorem of_ofData? (h : ofData? d = some info) :
    (info.exe.IsText ∧ ∀ demangler ∈ info.demangler, demangler.IsText) ∧
      (info.env.map (·.1)).Pairwise (· < ·) := by
  rw [ofData?] at h
  -- the record first, then its fourteen fields
  iterate 3 obtain ⟨_, -, h⟩ := Option.bind_eq_some_iff.1 h
  obtain ⟨exe, hexe, h⟩ := Option.bind_eq_some_iff.1 h
  iterate 5 obtain ⟨_, -, h⟩ := Option.bind_eq_some_iff.1 h
  obtain ⟨env, henv, h⟩ := Option.bind_eq_some_iff.1 h
  obtain ⟨demangler, hdemangler, h⟩ := Option.bind_eq_some_iff.1 h
  iterate 4 obtain ⟨_, -, h⟩ := Option.bind_eq_some_iff.1 h
  obtain rfl := Option.some.inj h
  exact ⟨⟨Fields.of_required? Path.isText_of_ofData? hexe,
    Fields.of_optional? Path.isText_of_ofData? hdemangler⟩,
    Fields.of_withDefault? (P := fun env => (env.map (·.1)).Pairwise (· < ·)) pairwise_envOfData?
      List.Pairwise.nil henv⟩

theorem roundTrip :
    RoundTrip (fun info => info.exe.IsText ∧ ∀ demangler ∈ info.demangler, demangler.IsText)
      (fun info => (info.env.map (·.1)).Pairwise (· < ·)) fieldNames defaults ofData? toData? := by
  refine .of_reads (fun info => ?_) (fun h => ?_) (fun h => ?_) ofData?_toData? of_ofData?
  · rw [← Path.exists_toData?_iff]
    simp only [← Path.exists_toData?_iff, ← exists_mapM_iff]
    constructor
    · rintro ⟨d, hd⟩
      obtain ⟨exe, hexe, demangler, hdemangler, -⟩ := toData?_eq_some_iff.1 hd
      exact ⟨⟨exe, hexe⟩, demangler, hdemangler⟩
    · rintro ⟨⟨exe, hexe⟩, demangler, hdemangler⟩
      exact ⟨_, toData?_eq_some_iff.2 ⟨exe, hexe, demangler, hdemangler, rfl⟩⟩
  · obtain ⟨exe, hexe, demangler, hdemangler, rfl⟩ := toData?_eq_some_iff.1 h
    refine Data.complete_present ?_
    have hcomplete := Data.complete_of_mapM hdemangler Path.complete_toData?
    simpa [written, Path.complete_toData? hexe] using hcomplete
  · have hkind : CompilerKind.ofData? (.text "gcc") = some .gcc := CompilerKind.ofData?_name .gcc
    have henv : envOfData? (.record []) = some [] := rfl
    refine h.bind_fields? (by decide) (by decide) _ fun f e he hnew => ?_
    -- each field is read as before, the missing one as its default
    repeat rw [Fields.required?_set he (by decide)]
    repeat rw [Fields.withDefault?_set he hnew (by simp [defaults, hkind, henv, Data.toBool?])]
    repeat rw [Fields.optional?_set he hnew (by simp [defaults])]

end CompilerInfo

/-! ### All of them -/

/-- **A listing that is printed is read back.** -/
theorem readBack_listing {lines : List ParsedLine} {written : List Data}
    (h : lines.mapM ParsedLine.toData? = some written) :
    ReadBack (Data.toList? ParsedLine.ofData?) (.list written) lines := by
  have hlines := Data.forall₂_of_mapM h
  exact readBack_of_complete
    (Data.complete_of_forall₂ (hlines.imp fun _ _ => ParsedLine.roundTrip.complete))
    (Data.toList?_of_forall₂ (hlines.imp fun _ _ => ParsedLine.ofData?_toData?))

/-- **What is written as JSON is read back**, and so is what is read from any data that is accepted.
Absent fields are left out, and missing ones take their defaults. -/
theorem json_reads_back :
    RoundTrip (fun loc : SourceLocation => loc.file.IsText) (fun _ => True)
      ["file", "line", "column"] [("column", .null)]
      SourceLocation.ofData? SourceLocation.toData? ∧
    RoundTrip (fun line : ParsedLine => ∀ loc ∈ line.source, loc.file.IsText) (fun _ => True)
      ["text", "source"] [("source", .null)] ParsedLine.ofData? ParsedLine.toData? ∧
    RoundTrip
      (fun info : CompilerInfo => info.exe.IsText ∧ ∀ path ∈ info.demangler, path.IsText)
      (fun info => (info.env.map (·.1)).Pairwise (· < ·))
      CompilerInfo.fieldNames CompilerInfo.defaults CompilerInfo.ofData? CompilerInfo.toData? ∧
    RoundTrip (fun _ => True) (fun _ => True) CompilationInfo.fieldNames CompilationInfo.defaults
      CompilationInfo.ofData? (some ∘ CompilationInfo.toData) ∧
    RoundTrip (fun reported : BuildSystemCompileInfo => reported.compilerPath.IsText)
      (fun _ => True) BuildSystemCompileInfo.fieldNames BuildSystemCompileInfo.defaults
      BuildSystemCompileInfo.ofData? BuildSystemCompileInfo.toData? ∧
    RoundTrip (fun _ => True) (fun _ => True) FilterOptions.fieldNames FilterOptions.defaults
      FilterOptions.ofData? (some ∘ FilterOptions.toData) ∧
    RoundTrip (fun _ => True) (fun _ => True) SyncSettings.fieldNames SyncSettings.defaults
      SyncSettings.ofData? (some ∘ SyncSettings.toData) :=
  ⟨SourceLocation.roundTrip, ParsedLine.roundTrip, CompilerInfo.roundTrip,
    CompilationInfo.roundTrip, BuildSystemCompileInfo.roundTrip, FilterOptions.roundTrip,
    SyncSettings.roundTrip⟩

end AsmExplorer
