import AsmExplorer.Text.Word

/-!
# Structured data

The values that settings and requests are made of, whatever notation they are written in.

Records are read through `Data.fields?`.  A record may also be given as a list of its fields in
their declared order, from which trailing fields may be missing.  A field is looked up by name in
either form, so a reader names each field once:

* `Fields.required?` : the field must be there.
* `Fields.withDefault?` : a missing field has a default.
* `Fields.optional?` : a missing field and `null` both mean absent.
-/

namespace AsmExplorer

/-- A structured value. -/
inductive Data where
  /-- No value. -/
  | null
  /-- A truth value. -/
  | bool (b : Bool)
  /-- An integer. -/
  | integer (n : Int)
  /-- A number or date that is no integer, as written.  Nothing reads it. -/
  | scalar (spelling : String)
  /-- A text. -/
  | text (s : String)
  /-- A list. -/
  | list (items : List Data)
  /-- Named values, in order. -/
  | record (fields : List (String × Data))
deriving Inhabited

/-- The named parts of a record. -/
structure Fields where
  /-- The value of each field that is given. -/
  get? : String → Option Data

/-- What a reader does with parts of a record that it does not know. -/
inductive Unknown where
  /-- It refuses them. -/
  | refused
  /-- It passes over them. -/
  | ignored
deriving DecidableEq

namespace Data

/-- The field at the given position of a list of fields. -/
def positional (names : List String) (items : List Data) (name : String) : Option Data :=
  (names.zip items).lookup name

/-- The fields of a record with the declared names.  Fields that occur twice are refused, and so
are list items beyond the declared fields. -/
def fields? (names : List String) (unknown : Unknown) : Data → Option Fields
  | record fields =>
    let given := fields.map (·.1)
    let known := given.filter names.contains
    if (unknown = .refused ∧ known.length ≠ given.length) ∨ ¬ known.Nodup then none
    else some ⟨fun name => fields.lookup name⟩
  | list items =>
    if items.length > names.length then none else some ⟨positional names items⟩
  | _ => none

/-- The fields of a table of settings with the declared names, of which no others are allowed.  List
items beyond the declared fields are passed over. -/
def settings? (names : List String) : Data → Option Fields
  | list items => some ⟨positional names items⟩
  | d => d.fields? names .refused

/-- Reads a truth value. -/
def toBool? : Data → Option Bool
  | bool b => some b
  | _ => none

/-- Reads a text. -/
def toText? : Data → Option String
  | text s => some s
  | _ => none

/-- Reads an integer from 0 up to a bound. -/
def toNatBelow? (bound : Nat) : Data → Option Nat
  | integer n => if 0 ≤ n ∧ n < bound then some n.toNat else none
  | _ => none

/-- Reads a number of 32 bits. -/
def toUInt32? (d : Data) : Option UInt32 :=
  (d.toNatBelow? Text.bound32).map UInt32.ofNat

/-- Reads a number of 64 bits. -/
def toUInt64? (d : Data) : Option UInt64 :=
  (d.toNatBelow? Text.bound64).map UInt64.ofNat

/-- Reads a list, every item in the same way. -/
def toList? {α : Type} (read : Data → Option α) : Data → Option (List α)
  | list items => items.mapM read
  | _ => none

/-- Reads a record with any names, every value in the same way. -/
def toMap? {α : Type} (read : Data → Option α) : Data → Option (List (String × α))
  | record fields => fields.mapM fun (key, value) => (read value).map (key, ·)
  | _ => none

/-- Reads a value or its absence. -/
def toOption? {α : Type} (read : Data → Option α) : Data → Option (Option α)
  | null => some none
  | d => (read d).map some

/-- Writes a value or its absence. -/
def ofOption {α : Type} (write : α → Data) : Option α → Data
  | none => null
  | some a => write a

/-- Writes a list. -/
def ofList {α : Type} (write : α → Data) (items : List α) : Data :=
  list (items.map write)

/-- Writes a natural number. -/
def ofNat (n : Nat) : Data :=
  integer n

/-- Writes texts. -/
def texts (items : List String) : Data :=
  list (items.map text)

end Data

namespace Fields

/-- Reads a field that must be there. -/
def required? {α : Type} (f : Fields) (name : String) (read : Data → Option α) : Option α :=
  f.get? name >>= read

/-- Reads a field that has a default. -/
def withDefault? {α : Type} (f : Fields) (name : String) (read : Data → Option α) (default_ : α) :
    Option α :=
  match f.get? name with
  | none => some default_
  | some d => read d

/-- Reads a field that may be absent. -/
def optional? {α : Type} (f : Fields) (name : String) (read : Data → Option α) :
    Option (Option α) :=
  f.withDefault? name (Data.toOption? read) none

end Fields

/-! ### Ordered maps -/

/-- Sets a key of a list of pairs that is sorted by its keys. -/
def insertSorted {α : Type} (key : String) (value : α) : List (String × α) → List (String × α)
  | [] => [(key, value)]
  | (k, v) :: rest =>
    if key < k then (key, value) :: (k, v) :: rest
    else if key = k then (key, value) :: rest
    else (k, v) :: insertSorted key value rest

/-- The pairs sorted by their keys; the last value of a key counts. -/
def sortedMap {α : Type} (pairs : List (String × α)) : List (String × α) :=
  pairs.foldl (fun m (key, value) => insertSorted key value m) []

end AsmExplorer
