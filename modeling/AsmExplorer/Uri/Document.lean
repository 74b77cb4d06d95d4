import AsmExplorer.Path
import AsmExplorer.Uri.Parse

/-!
# Documents

Source files and the assembly views made from them are documents named by URIs.

* `sourceUri` : the document of a file.  The path is normalized first, so every spelling of a path
  names the same document.
* `Uri.toPath?` : the file of a document.
* `assemblyUri` : the document of the assembly view of a source.  Its path shows the source's path
  with the extension `asm`; its query holds the whole URI of the source, so that different sources
  never share a view and `sourceOfAssembly?` can give the source back.
-/

namespace AsmExplorer

/-- Why a document cannot be named. -/
inductive DocumentFault where
  /-- The path of a source file does not start at the root. -/
  | relativePath (path : Path)
  /-- The path of the source makes no URI of the assembly scheme. -/
  | noAssembly (source : Uri) (fault : UriFault)
deriving DecidableEq, Inhabited

/-- The wording of a fault. -/
def DocumentFault.message : DocumentFault → String
  | relativePath path => s!"source path is not absolute: {path.display}"
  | noAssembly source fault =>
    s!"cannot derive assembly URI for {source.render}: {fault.message}"

/-! ### Files -/

/-- The path of the document of a file: its components, percent-encoded. -/
def filePathChars (p : Path) : List Char :=
  match p.components.drop 1 with
  | [] => ['/']
  | cs => cs.flatMap fun c => '/' :: Text.percentEncode Uri.segmentPlain c.bytes

/-- The document of a file given by its normalized absolute path. -/
def fileUri (p : Path) : Uri :=
  { scheme := "file".toList, authority := some Uri.localAuthority, path := filePathChars p
    query := none, fragment := none }

/-- The document of a source file.  Paths that are lexically the same give the same document. -/
def sourceUri (p : Path) : Except DocumentFault Uri :=
  let normal := p.normalize
  if normal.isAbsolute then .ok (fileUri normal) else .error (.relativePath p)

/-- Whether bytes end in a drive letter, and are not the drive letter alone. -/
def endsInDrive (bytes : List UInt8) : Bool :=
  match bytes.reverse with
  | mark :: letter :: _ :: _ =>
    (Text.asciiChar letter).isAlpha && (Text.bytes ":|").contains mark
  | _ => false

/-- The file of a document: its path must be rooted and its host, if it has one, this machine.  A
drive letter at the end is written with a slash after it. -/
def Uri.toPath? (u : Uri) : Option Path :=
  let isLocal := u.authority.all fun a => a.host.isEmpty || a.host == "localhost".toList
  if u.path.head? = some '/' ∧ isLocal then
    let bytes := Text.percentDecode u.path
    some ⟨if endsInDrive bytes then bytes ++ [Path.slash] else bytes⟩
  else none

/-! ### Assembly views -/

/-- The scheme of assembly views. -/
def assemblyScheme : List Char := "assembly".toList

/-- The key of the query pair that holds the source. -/
def sourceKey : List Char := "source".toList

/-- Whether a document is an assembly view. -/
def Uri.isAssembly (u : Uri) : Bool :=
  u.scheme == assemblyScheme

/-- The name with `extension` in the place of its last extension; a dot at its start begins no
extension. -/
def replaceNameExtension (name extension : List Char) : List Char :=
  match Text.splitLast '.' name with
  | some (before, _) =>
    if before.isEmpty then name ++ '.' :: extension else before ++ '.' :: extension
  | none => name ++ '.' :: extension

/-- The path of a URI with `extension` in the place of the last extension of its last segment. -/
def replaceExtension (path extension : List Char) : List Char :=
  match Text.splitLast '/' path with
  | some (directory, name) => directory ++ '/' :: replaceNameExtension name extension
  | none => replaceNameExtension path extension

/-- The query with one more pair at its end. -/
def appendPair (query : Option (List Char)) (key value : List Char) : List Char :=
  let pair := Text.formEncode key ++ '=' :: Text.formEncode value
  match query with
  | none => pair
  | some q => if q.isEmpty then pair else q ++ '&' :: pair

/-- The document of the assembly view of a source. -/
def assemblyUri (source : Uri) : Except DocumentFault Uri :=
  let path := replaceExtension source.path "asm".toList
  match Uri.parseChars (assemblyScheme ++ ':' :: path) with
  | .error fault => .error (.noAssembly source fault)
  | .ok u => .ok { u with query := some (appendPair u.query sourceKey source.chars) }

/-- The source an assembly view was made from. -/
def sourceOfAssembly? (assembly : Uri) : Option Uri := do
  if assembly.isAssembly then
    let pairs := Text.formPairs (assembly.query.getD [])
    let (_, value) ← pairs.find? fun (key, _) => key == sourceKey
    (Uri.parseChars value).toOption
  else none

end AsmExplorer
