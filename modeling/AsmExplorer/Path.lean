import AsmExplorer.Text.Blank
import AsmExplorer.Text.Utf8

/-!
# Paths

A path is a string of bytes, which need not be those of a text; what it *means* is its list of
components.  Repeated slashes, a trailing slash and every `.` but a leading one make no component,
so two spellings may mean the same path.  Joining, taking the parent and changing the extension work
on the bytes and keep their spelling, because paths are shown to the user as written.

* `Path.ofText`, `Path.text?`, `Path.display` : paths and texts.
* `Path.components` : the meaning of a path.
* `Path.normalize` : the lexical normal form, in which `..` cancels the name before it.
* `Path.join`, `Path.parent?`, `Path.setExtension`, `Path.withExtension` : the operations on spelled
  paths.
-/

namespace AsmExplorer

/-- A path, as written. -/
structure Path where
  /-- The spelling. -/
  bytes : List UInt8
deriving DecidableEq, Inhabited

namespace Path

/-- The byte that stands between the parts of a path. -/
def slash : UInt8 := 0x2F

/-- The byte before an extension. -/
def dot : UInt8 := 0x2E

/-- One step of a path. -/
inductive Component where
  /-- The leading slash of an absolute path. -/
  | root
  /-- A leading `.`. -/
  | here
  /-- A `..`. -/
  | up
  /-- A name. -/
  | name (bytes : List UInt8)
deriving DecidableEq, Inhabited

/-- The spelling of a component between slashes. -/
def Component.bytes : Component → List UInt8
  | root => []
  | here => [dot]
  | up => [dot, dot]
  | name bytes => bytes

/-! ### Paths and texts -/

/-- The path that is spelled by a text. -/
def ofChars (cs : List Char) : Path :=
  ⟨Text.utf8 cs⟩

/-- The path that is spelled by a text. -/
def ofText (s : String) : Path :=
  ⟨Text.bytes s⟩

/-- The text that spells the path, if its bytes are those of a text. -/
def text? (p : Path) : Option (List Char) :=
  Text.decode? p.bytes

/-- The path as it is shown, with U+FFFD in the place of what is no text. -/
def display (p : Path) : String :=
  Text.lossy p.bytes

/-! ### Components -/

/-- Whether the path starts at the root. -/
def isAbsolute (p : Path) : Bool :=
  p.bytes.head? == some slash

/-- The component a part between slashes stands for; empty parts and `.` stand for none. -/
def component? (part : List UInt8) : Option Component :=
  if part = [] ∨ part = [dot] then none
  else if part = [dot, dot] then some .up
  else some (.name part)

/-- The parts between the slashes, split at every slash. -/
def parts (p : Path) : List (List UInt8) :=
  p.bytes.splitOn slash

/-- What the parts of a path say about where it starts: at the root, or at a `.`. -/
def lead : List (List UInt8) → List Component
  | [] :: _ :: _ => [.root]
  | first :: _ => if first = [dot] then [.here] else []
  | [] => []

/-- The steps that a path takes from where it starts. -/
def steps (p : Path) : List Component :=
  p.parts.filterMap component?

/-- The components of a path, in order. -/
def components (p : Path) : List Component :=
  lead p.parts ++ p.steps

/-- The canonical spelling of components: a slash after the root is not repeated. -/
def ofComponents : List Component → Path
  | .root :: rest => ⟨slash :: Text.joinWith [slash] (rest.map Component.bytes)⟩
  | cs => ⟨Text.joinWith [slash] (cs.map Component.bytes)⟩

/-! ### Normal form -/

/-- Appends a component to a normal form held in reverse: `.` disappears, `..` cancels a name,
stays where nothing can be cancelled, and disappears at the root. -/
def pushNormal (reversed : List Component) : Component → List Component
  | .here => reversed
  | .up =>
    match reversed with
    | .name _ :: rest => rest
    | .root :: _ => reversed
    | _ => .up :: reversed
  | c => c :: reversed

/-- The components of the lexical normal form. -/
def normalComponents (cs : List Component) : List Component :=
  (cs.foldl pushNormal []).reverse

/-- The lexical normal form, found without looking at any file system. -/
def normalize (p : Path) : Path :=
  ofComponents (normalComponents p.components)

/-! ### Names -/

/-- The last component, if it is a name. -/
def fileName? (p : Path) : Option (List UInt8) :=
  match p.components.getLast? with
  | some (.name bytes) => some bytes
  | _ => none

/-- Splits a name at its last mark, unless it starts with that mark. -/
def splitName {α : Type} [DecidableEq α] (mark : α) (name : List α) : List α × Option (List α) :=
  match Text.splitLast mark name with
  | some (before, after) => if before.isEmpty then (name, none) else (before, some after)
  | none => (name, none)

/-- The file name without its last extension. -/
def fileStem? (p : Path) : Option (List UInt8) :=
  p.fileName?.map fun name => (splitName dot name).1

/-- The last extension of the file name. -/
def extension? (p : Path) : Option (List UInt8) :=
  p.fileName?.bind fun name => (splitName dot name).2

/-! ### Operations on the spelling -/

/-- The parts without those at the end that make no component. -/
def dropTrivial (reversed : List (List UInt8)) : List (List UInt8) :=
  reversed.dropWhile fun part => part.isEmpty || part == [dot]

/-- The spelling of a relative path's parts, given in reverse and without the first part: the
first part counts as a component even when it is `.`. -/
def parentOf (first : List UInt8) (reversed : List (List UInt8)) : Option (List (List UInt8)) :=
  match dropTrivial reversed with
  | _ :: rest => some (first :: (dropTrivial rest).reverse)
  | [] => none

/-- The path without its last component, spelled as before; none for the root and for the empty
path. -/
def parent? (p : Path) : Option Path :=
  match p.parts with
  | [] => none
  | [] :: rest =>
    match parentOf [] rest.reverse with
    | some [[]] => some ⟨[slash]⟩
    | some ps => some ⟨Text.joinWith [slash] ps⟩
    | none => none
  | first :: rest =>
    match parentOf first rest.reverse with
    | some ps => some ⟨Text.joinWith [slash] ps⟩
    | none => some ⟨[]⟩

/-- The path `q` seen from `p`: `q` itself if it is absolute, otherwise `q` after `p` with a slash
between them.  Joining the empty path adds a trailing slash. -/
def join (p q : Path) : Path :=
  if q.isAbsolute then q
  else if p.bytes = [] ∨ p.bytes.getLast? = some slash then ⟨p.bytes ++ q.bytes⟩
  else ⟨p.bytes ++ slash :: q.bytes⟩

/-- The path seen from the root, for a path that is meant relative to a directory.  The empty path
has none.  A leading `.` and superfluous slashes disappear, while two slashes at the very start and
one at the very end stay, as they may mean something to the system. -/
def absolute? (p directory : Path) : Option Path :=
  let steps :=
    match p.components with
    | .here :: rest => rest
    | .root :: rest => rest
    | cs => cs
  let start : Path :=
    if !p.isAbsolute then directory
    else if p.bytes.take 2 = [slash, slash] ∧ p.bytes[2]? ≠ some slash then ⟨[slash, slash]⟩
    else ⟨[slash]⟩
  let whole := steps.foldl (fun q step => q.join ⟨step.bytes⟩) start
  if p.bytes = [] then none
  else some (if p.bytes.getLast? = some slash then whole.join ⟨[]⟩ else whole)

/-- The path whose file name has `extension` after its stem.  What follows the stem is dropped; a
path without a file name stays as it is. -/
def setExtension (p : Path) (extension : List UInt8) : Path :=
  match p.fileStem? with
  | none => p
  | some stem =>
    match dropTrivial p.parts.reverse with
    | _ :: before =>
      ⟨Text.joinWith [slash] ((stem ++ dot :: extension) :: before).reverse⟩
    | [] => p

/-- The path whose file name has `extension` in the place of its last extension.  The old extension
is cut off before the new one is set, and its dot is left: of `..c` there is left `..`, which is no
file name, so that it gets no new extension. -/
def withExtension (p : Path) (extension : List UInt8) : Path :=
  let previous := p.extension?.getD []
  (⟨p.bytes.take (p.bytes.length - previous.length)⟩ : Path).setExtension extension

/-- Whether the components of `q` are the last ones of `p`. -/
def endsWith (p q : Path) : Bool :=
  q.components.isSuffixOf p.components

end Path

end AsmExplorer
