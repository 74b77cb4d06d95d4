import AsmExplorer.Uri.Host

/-!
# Reading URIs

`Uri.parse` reads an absolute URI the way browsers do: characters that may not stand in a part are
percent-encoded, `.` and `..` segments are resolved, and the schemes of the web and `file` get a
host and a rooted path in any case.

* Web schemes (`SchemeKind.web`) need a host; any number of slashes leads to it.
* `file` (`SchemeKind.file`) may name a host; slashes at the start of its path collapse to one, and
  a drive letter at the root is kept by `..`.
* Any other scheme (`SchemeKind.plain`) has an opaque host after `//`, a rooted path after `/`, and
  an opaque path otherwise.
-/

namespace AsmExplorer

/-- How a scheme's URIs are built. -/
inductive SchemeKind where
  /-- The scheme of local files. -/
  | file
  /-- A scheme of the web: it has a host, and a backslash counts as a slash. -/
  | web
  /-- Any other scheme. -/
  | plain
deriving DecidableEq, Inhabited

namespace SchemeKind

/-- The kind of a scheme. -/
def of (scheme : List Char) : SchemeKind :=
  if scheme = "file".toList then file
  else if ["http", "https", "ws", "wss", "ftp"].any (·.toList == scheme) then web
  else plain

/-- Whether backslashes count as slashes. -/
def isSpecial : SchemeKind → Bool
  | plain => false
  | _ => true

/-- Whether a character separates the segments of a path. -/
def isSlash (kind : SchemeKind) (c : Char) : Bool :=
  c == '/' || (kind.isSpecial && c == '\\')

end SchemeKind

/-- The port a scheme uses when none is written. -/
def defaultPort? (scheme : List Char) : Option Nat :=
  if scheme = "http".toList ∨ scheme = "ws".toList then some 80
  else if scheme = "https".toList ∨ scheme = "wss".toList then some 443
  else if scheme = "ftp".toList then some 21
  else none

namespace Uri

/-! ### Scheme -/

/-- Characters of a scheme after its first letter. -/
def isSchemeChar (c : Char) : Bool :=
  c.isAlphanum || c == '+' || c == '-' || c == '.'

/-- The scheme in lower case, and what follows its colon. -/
def splitScheme (cs : List Char) : Option (List Char × List Char) :=
  match cs.dropWhile isSchemeChar with
  | ':' :: rest =>
    if (cs.head?.any Char.isAlpha) then some ((cs.takeWhile isSchemeChar).map Char.toLower, rest)
    else none
  | _ => none

/-- The text without blanks and controls at its ends. -/
def strip (cs : List Char) : List Char :=
  let low (c : Char) : Bool := c.toNat ≤ 0x20
  ((cs.dropWhile low).reverse.dropWhile low).reverse

/-- Characters that do not count wherever they stand: line breaks and tabs. -/
def isGap (c : Char) : Bool :=
  c == '\t' || c == '\n' || c == '\r'

/-- The characters that count. -/
def counted (cs : List Char) : List Char :=
  cs.filter fun c => !isGap c

/-- The first character that counts and what follows it. -/
def next? (cs : List Char) : Option (Char × List Char) :=
  match cs.dropWhile isGap with
  | [] => none
  | c :: rest => some (c, rest)

/-! ### Path -/

/-- Whether a path segment means the enclosing directory. -/
def isUp (segment : List Char) : Bool :=
  ["..", "%2e%2e", "%2e.", ".%2e"].any (·.toList == segment.map Char.toLower)

/-- Whether a path segment means the directory itself. -/
def isHere (segment : List Char) : Bool :=
  [".", "%2e"].any (·.toList == segment.map Char.toLower)

/-- A drive letter: a letter and a colon or bar. -/
def isDrive : List Char → Bool
  | [a, b] => a.isAlpha && (b == ':' || b == '|')
  | _ => false

/-- Whether a text starts with a drive letter that is a whole segment. -/
def startsWithDrive : List Char → Bool
  | a :: b :: rest =>
    isDrive [a, b] && (rest.head?.all fun c => c == '/' || c == '\\' || c == '?' || c == '#')
  | _ => false

/-- The segments of a path, each with whether a slash follows it, and what follows the path: the
rest of the text from the first question mark or number sign on. -/
def segments (kind : SchemeKind) : List Char → List (List Char × Bool) × List Char
  | [] => ([([], false)], [])
  | c :: rest =>
    if c = '?' ∨ c = '#' then ([([], false)], c :: rest)
    else
      let (more, after) := segments kind rest
      if kind.isSlash c then (([], true) :: more, after)
      else
        match more with
        | (segment, slash) :: others => ((c :: segment, slash) :: others, after)
        | [] => ([([c], false)], after)

/-- The path with a slash at its end. -/
def closed (path : List Char) : List Char :=
  if path.getLast? = some '/' then path else path ++ ['/']

/-- Whether the last slash of a path may go: it is not the root's, and no drive letter stands
before it. -/
def lastSlashRemovable (path : List Char) : Bool :=
  match Text.splitLast '/' path.dropLast with
  | some (_, segment) => !startsWithDrive (segment ++ ['/'])
  | none => false

/-- The path without what follows its last slash; a drive letter stays. -/
def shorten (kind : SchemeKind) (path : List Char) : List Char :=
  match Text.splitLast '/' path with
  | some (before, segment) =>
    if kind = .file ∧ isDrive segment ∧ segment.getLast? = some ':' then path
    else before ++ ['/']
  | none => path

/-- The path of the enclosing directory. -/
def ascend (kind : SchemeKind) (path : List Char) : List Char :=
  if path.getLast? = some '/' ∧ lastSlashRemovable path then shorten kind path.dropLast
  else shorten kind path

/-- A path under construction. -/
structure PathSoFar where
  /-- The path. -/
  path : List Char
  /-- Whether a drive letter at the root has been seen, which no host can go with. -/
  onDrive : Bool
deriving Inhabited

/-- A drive letter that a gap cuts off from the rest of its segment, and the rest. -/
def cutDrive? (raw : List Char) : Option (List Char × List Char) := do
  let (letter, afterLetter) ← next? raw
  let (colon, rest) ← next? afterLetter
  if letter.isAlpha ∧ colon = ':' ∧ rest.head?.any isGap ∧ !(counted rest).isEmpty then
    some ([letter, colon], counted rest)
  else none

/-- Adds one segment to a path.  A drive letter at the root that a gap cuts off is a directory,
whose entry is then taken as written. -/
def addSegment (kind : SchemeKind) (s : PathSoFar) : List Char × Bool → PathSoFar
  | (raw, slash) =>
    let segment := Text.percentEncode pathPlain (Text.utf8 (counted raw))
    let tail : List Char := if slash then ['/'] else []
    let cut := if kind = .file ∧ s.path.length = 1 then cutDrive? raw else none
    if let some (drive, rest) := cut then
      { s with
        path := s.path ++ drive ++ '/' :: Text.percentEncode pathPlain (Text.utf8 rest) ++ tail }
    else if isUp segment then
      let path := ascend kind s.path
      { s with path := if slash then closed path else path }
    else if isHere segment then { s with path := closed s.path }
    else if kind = .file ∧ s.path.length = 1 ∧ isDrive segment then
      { path := s.path ++ segment.take 1 ++ ':' :: tail, onDrive := true }
    else { s with path := s.path ++ segment ++ tail }

/-- The path that starts with `path` and goes on with the text, and what follows it. -/
def readPath (kind : SchemeKind) (path : List Char) (cs : List Char) : PathSoFar × List Char :=
  let (parts, after) := segments kind cs
  let done := parts.foldl (addSegment kind) { path, onDrive := false }
  if kind = .file then ({ done with path := '/' :: done.path.dropWhile (· == '/') }, counted after)
  else (done, after)

/-! ### Authority -/

/-- The text before the last `@` of the authority and what follows that `@`. -/
def splitCredentials (kind : SchemeKind) (cs : List Char) : Option (List Char × List Char) :=
  let ends (c : Char) : Bool := kind.isSlash c || c == '?' || c == '#'
  let authority := cs.takeWhile fun c => !ends c
  (Text.splitLast '@' authority).map fun (before, after) =>
    (before, after ++ cs.drop authority.length)

/-- The written form of a user name and password; an empty password leaves no colon. -/
def credentials (cs : List Char) : List Char :=
  let encode (cs : List Char) := Text.percentEncode credentialPlain (Text.utf8 cs)
  match Text.splitFirst ':' cs with
  | some (user, password) =>
    if password.isEmpty then encode user else encode user ++ ':' :: encode password
  | none => encode cs

/-- The text of a host and what follows it: a colon outside brackets or the end of the
authority. -/
def splitHost (kind : SchemeKind) (inBrackets : Bool) : List Char → List Char × List Char
  | [] => ([], [])
  | c :: rest =>
    if (c == ':' && !inBrackets) || kind.isSlash c || c == '?' || c == '#' then ([], c :: rest)
    else
      let (host, after) := splitHost kind (if c = '[' then true else c != ']' && inBrackets) rest
      (c :: host, after)

/-- The port after a colon; absent if no digit is written or it is the scheme's own. -/
def readPort (scheme : List Char) (cs : List Char) :
    Except UriFault (Option Nat × List Char) :=
  let digits := cs.takeWhile Char.isDigit
  let after := cs.dropWhile Char.isDigit
  let ends := after.head?.all fun c => c == '/' || c == '\\' || c == '?' || c == '#'
  if digits.isEmpty then if ends then .ok (none, after) else .error .badPort
  else
    match Text.natBelow? 65536 digits with
    | none => .error .badPort
    | some port =>
      if !ends then .error .badPort
      else .ok (if defaultPort? scheme = some port then none else some port, after)

/-- The authority after `//`, and what follows it. -/
def readAuthority (kind : SchemeKind) (scheme : List Char) (cs : List Char) :
    Except UriFault (Authority × List Char) := do
  let (given, afterCredentials) ←
    match splitCredentials kind cs with
    | none => pure ([], cs)
    | some (before, after) =>
      if before.isEmpty ∧ (after.head?.any fun c => kind.isSlash c || c == '?' || c == '#') then
        .error .emptyHost
      else pure (credentials before, after)
  let (hostText, afterHost) := splitHost kind false afterCredentials
  if hostText.isEmpty ∧ (kind.isSpecial ∨ afterHost.head? = some ':') then .error .emptyHost
  else
    let host ← if kind.isSpecial then Host.parse hostText else Host.parseOpaque hostText
    let (port, after) ←
      match afterHost with
      | ':' :: rest => readPort scheme rest
      | rest => pure (none, rest)
    if host.isEmpty ∧ !given.isEmpty then .error .emptyHost
    else pure ({ credentials := given, host, port }, after)

/-! ### The whole -/

/-- The query and the fragment of the text after the path. -/
def readTail (kind : SchemeKind) (cs : List Char) : Option (List Char) × Option (List Char) :=
  let fragment (text : List Char) : Option (List Char) :=
    match text with
    | '#' :: rest => some (Text.percentEncode fragmentPlain (Text.utf8 rest))
    | _ => none
  match cs with
  | '?' :: rest =>
    (some (Text.percentEncode (queryPlain kind.isSpecial) (Text.utf8 (rest.takeWhile (· != '#')))),
      fragment (rest.dropWhile (· != '#')))
  | rest => (none, fragment rest)

/-- A URI of a path and what follows it. -/
def assemble (kind : SchemeKind) (scheme : List Char) (authority : Option Authority)
    (path after : List Char) : Uri :=
  let (query, fragment) := readTail kind after
  { scheme, authority, path, query, fragment }

/-- The URI of a scheme with authority. -/
def readHierarchical (kind : SchemeKind) (scheme cs : List Char) : Except UriFault Uri := do
  let (authority, rest) ← readAuthority kind scheme cs
  let (done, after) :=
    if kind.isSpecial then
      match rest with
      | c :: more => readPath kind ['/'] (if kind.isSlash c then more else rest)
      | [] => readPath kind ['/'] []
    else
      match rest with
      | [] => ({ path := [], onDrive := false }, [])
      | '?' :: more => ({ path := [], onDrive := false }, '?' :: more)
      | '#' :: more => ({ path := [], onDrive := false }, '#' :: more)
      | '/' :: more => readPath kind [] ('/' :: more)
      | more => readPath kind ['/'] more
  pure (assemble kind scheme (some authority) done.path after)

/-- The authority of a file on this machine. -/
def localAuthority : Authority :=
  { credentials := [], host := [], port := none }

/-- The URI of a file: after two slashes a host may follow, `localhost` and a drive letter being
none.  The text still has its gaps. -/
def readFile (scheme cs : List Char) : Except UriFault Uri := do
  let kind := SchemeKind.file
  let onThisMachine (path text : List Char) : Uri :=
    let (done, after) := readPath kind path text
    assemble kind scheme (some localAuthority) done.path after
  match next? cs with
  | none => pure (onThisMachine ['/'] [])
  | some (c, rest) =>
    if !kind.isSlash c then pure (onThisMachine ['/'] cs)
    else
      match next? rest with
      | none => pure (onThisMachine [] cs)
      | some (d, more) =>
        if !kind.isSlash d then pure (onThisMachine [] cs)
        else
          let ends (c : Char) : Bool := kind.isSlash c || c == '?' || c == '#'
          let hostText := counted (more.takeWhile fun c => !ends c)
          let after := more.dropWhile fun c => !ends c
          if isDrive hostText then pure (onThisMachine ['/'] more)
          else if hostText.isEmpty then pure (onThisMachine ['/'] after)
          else
            let host ← Host.parse hostText
            if host = "localhost".toList then pure (onThisMachine ['/'] after)
            else
              let text := if after.head?.any kind.isSlash then after.drop 1 else after
              let (done, tail) := readPath kind ['/'] text
              let authority := if done.onDrive then localAuthority else { localAuthority with host }
              pure (assemble kind scheme (some authority) done.path tail)

/-- The URI of a scheme that is neither `file` nor of the web. -/
def readPlain (scheme cs : List Char) : Except UriFault Uri :=
  let kind := SchemeKind.plain
  match cs with
  | '/' :: '/' :: rest => readHierarchical kind scheme rest
  | '/' :: rest =>
    let (done, after) := readPath kind ['/'] rest
    pure (assemble kind scheme none done.path after)
  | _ =>
    let ends (c : Char) : Bool := c == '?' || c == '#'
    let path := Text.percentEncode isPrintable (Text.utf8 (cs.takeWhile fun c => !ends c))
    pure (assemble kind scheme none path (cs.dropWhile fun c => !ends c))

/-- Reads characters as an absolute URI. -/
def parseChars (cs : List Char) : Except UriFault Uri :=
  let text := strip cs
  match splitScheme (counted text) with
  | none => .error .relative
  | some (scheme, rest) =>
    match SchemeKind.of scheme with
    | .file => readFile scheme ((text.dropWhile (· != ':')).drop 1)
    | .web => readHierarchical .web scheme (rest.dropWhile (SchemeKind.isSlash .web))
    | .plain => readPlain scheme rest

/-- Reads a text as an absolute URI. -/
def parse (text : String) : Except UriFault Uri :=
  parseChars text.toList

/-- Reads a text as an absolute URI, forgetting what is wrong with it. -/
def parse? (text : String) : Option Uri :=
  (parse text).toOption

end Uri

end AsmExplorer
