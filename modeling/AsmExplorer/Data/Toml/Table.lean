import AsmExplorer.Data.Value

/-!
# TOML tables

A TOML document builds its tables piece by piece, and a table may be added to or not depending on
how it came about:

* a *header* table was opened by a header of its own;
* an *implied* table was only passed through by the header of a table in it, and a header of its
  own may still open it;
* a *dotted* table was made by a key with dots, and further such keys may add to it.

Inline tables and arrays are values, to which nothing is added.  Every step fails where it would
define something twice.
-/

namespace AsmExplorer.Toml

/-- How a table came about. -/
inductive TableKind where
  /-- By a header. -/
  | header
  /-- By the header of a table in it. -/
  | implied
  /-- By a key with dots. -/
  | dotted
deriving DecidableEq, Inhabited

/-- What stands under a key. -/
inductive Node where
  /-- A value that is complete. -/
  | value (d : Data)
  /-- A table. -/
  | table (kind : TableKind) (fields : List (String × Node))
  /-- The tables opened by headers in double brackets, in order. -/
  | tables (items : List (List (String × Node)))
deriving Inhabited

/-- The contents of a table, in order. -/
abbrev Table := List (String × Node)

namespace Table

/-- The table with a changed node under a key; the change sees what stood there. -/
def modify (t : Table) (key : String) (change : Option Node → Option Node) : Option Table :=
  match t with
  | [] => (change none).map fun n => [(key, n)]
  | (k, n) :: rest =>
    if k = key then (change (some n)).map fun n => (k, n) :: rest
    else (modify rest key change).map ((k, n) :: ·)

/-- The list of tables with its last one changed. -/
def modifyLast (items : List Table) (change : Table → Option Table) : Option (List Table) :=
  match items with
  | [] => none
  | [last] => (change last).map ([·])
  | first :: rest => (modifyLast rest change).map (first :: ·)

/-- Puts a value under a key with dots.  The value must be new, and all tables on the way must be
open to such keys: a table that headers have made may be passed through but not added to. -/
def assign (value : Data) : (path : List String) → (open_ : Bool) → Table → Option Table
  | [], _, _ => none
  | [key], open_, t =>
    if open_ then t.modify key fun
      | none => some (.value value)
      | some _ => none
    else none
  | key :: path, _, t =>
    t.modify key fun
      | none => (assign value path true []).map (.table .dotted)
      | some (.table .dotted fields) => (assign value path true fields).map (.table .dotted)
      | some (.table .implied fields) => (assign value path false fields).map (.table .implied)
      | some (.table .header _) => none
      | some (.tables items) => (modifyLast items (assign value path false)).map .tables
      | some (.value _) => none

/-- Changes the table that a header leads to.  Tables on the way are made as needed; of the tables
under one key the last one counts. -/
def within (change : Table → Option Table) : (path : List String) → Table → Option Table
  | [], t => change t
  | key :: path, t =>
    t.modify key fun
      | none => (within change path []).map (.table .implied)
      | some (.table kind fields) => (within change path fields).map (.table kind)
      | some (.tables items) => (modifyLast items (within change path)).map .tables
      | some (.value _) => none

/-- Opens the table of a header, which must be new or only implied so far. -/
def openTable (path : List String) (t : Table) : Option Table :=
  match path.getLast? with
  | none => none
  | some key =>
    within
      (fun parent => parent.modify key fun
        | none => some (.table .header [])
        | some (.table .implied fields) => some (.table .header fields)
        | some _ => none)
      path.dropLast t

/-- Opens a further table of a header in double brackets. -/
def openItem (path : List String) (t : Table) : Option Table :=
  match path.getLast? with
  | none => none
  | some key =>
    within
      (fun parent => parent.modify key fun
        | none => some (.tables [[]])
        | some (.tables items) => some (.tables (items ++ [[]]))
        | some _ => none)
      path.dropLast t

end Table

/-! ### Finished documents -/

mutual

/-- The value of a node. -/
def Node.toData : Node → Data
  | .value d => d
  | .table _ fields => .record (fieldsToData fields)
  | .tables items => .list (itemsToData items)

/-- The values of the contents of a table. -/
def fieldsToData : List (String × Node) → List (String × Data)
  | [] => []
  | (key, n) :: rest => (key, n.toData) :: fieldsToData rest

/-- The values of tables. -/
def itemsToData : List (List (String × Node)) → List Data
  | [] => []
  | fields :: rest => .record (fieldsToData fields) :: itemsToData rest

end

end AsmExplorer.Toml
