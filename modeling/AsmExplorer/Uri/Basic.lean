import AsmExplorer.Text.Word
import AsmExplorer.Text.Percent

/-!
# URIs

A URI in parsed form: scheme, authority, path, query and fragment, each already percent-encoded.
Two URIs are the same document exactly when these parts are equal; `Uri.render` writes them out.

A path without authority that starts with two slashes is written with `/.` before it, because the
two slashes would otherwise be read as the start of an authority.
-/

namespace AsmExplorer

/-- The authority of a URI. -/
structure Authority where
  /-- User name and password as written before the `@`; empty if there are none. -/
  credentials : List Char
  /-- The host, in its written form; empty if there is none. -/
  host : List Char
  /-- The port, absent if it is the scheme's own. -/
  port : Option Nat
deriving DecidableEq, Inhabited

/-- A parsed URI. -/
structure Uri where
  /-- The scheme, in lower case. -/
  scheme : List Char
  /-- What stands after `//`, if anything does. -/
  authority : Option Authority
  /-- The path: empty, opaque, or starting with a slash. -/
  path : List Char
  /-- What stands after `?`. -/
  query : Option (List Char)
  /-- What stands after `#`. -/
  fragment : Option (List Char)
deriving DecidableEq, Inhabited

/-- Why a text is not a URI. -/
inductive UriFault where
  /-- There is no scheme, and nothing to resolve the text against. -/
  | relative
  /-- The authority must name a host and does not. -/
  | emptyHost
  /-- The host is no domain name. -/
  | badDomain
  /-- The host holds a character that no host may hold. -/
  | badHostCharacter
  /-- The host looks like an IPv4 address and is none. -/
  | badIpv4
  /-- The host stands in brackets and is no IPv6 address. -/
  | badIpv6
  /-- The port is no number below 65536. -/
  | badPort
deriving DecidableEq, Inhabited

/-- The wording of a fault. -/
def UriFault.message : UriFault → String
  | relative => "relative URL without a base"
  | emptyHost => "empty host"
  | badDomain => "invalid international domain name"
  | badHostCharacter => "invalid domain character"
  | badIpv4 => "invalid IPv4 address"
  | badIpv6 => "invalid IPv6 address"
  | badPort => "invalid port number"

namespace Authority

/-- The written authority, with its two slashes. -/
def chars (a : Authority) : List Char :=
  ['/', '/'] ++ (if a.credentials.isEmpty then [] else a.credentials ++ ['@']) ++ a.host ++
    (match a.port with
     | some p => ':' :: Text.decimal p
     | none => [])

end Authority

namespace Uri

/-- The written URI as characters. -/
def chars (u : Uri) : List Char :=
  u.scheme ++ ':' ::
    (match u.authority with
     | some a => a.chars
     | none => if ['/', '/'].isPrefixOf u.path then ['/', '.'] else []) ++
    u.path ++
    (match u.query with
     | some q => '?' :: q
     | none => []) ++
    (match u.fragment with
     | some f => '#' :: f
     | none => [])

/-- The written URI. -/
def render (u : Uri) : String :=
  String.ofList u.chars

/-- The order in which documents are listed: that of their written forms. -/
def le (u v : Uri) : Bool :=
  !decide (v.render < u.render)

/-- The documents in order. -/
def sort (us : List Uri) : List Uri :=
  us.mergeSort Uri.le

/-! ### What is written percent-encoded in each part -/

/-- Printable ASCII characters; all others are percent-encoded everywhere. -/
def isPrintable (c : Char) : Bool :=
  0x20 ≤ c.toNat && c.toNat < 0x7F

/-- Characters that stand for themselves in a fragment. -/
def fragmentPlain (c : Char) : Bool :=
  isPrintable c && !(" \"<>`".toList.contains c)

/-- Characters that stand for themselves in a path. -/
def pathPlain (c : Char) : Bool :=
  fragmentPlain c && !("#?\x7b\x7d".toList.contains c)

/-- Characters that stand for themselves in one component of a file path. -/
def segmentPlain (c : Char) : Bool :=
  pathPlain c && !("/%\\".toList.contains c)

/-- Characters that stand for themselves in a user name or password. -/
def credentialPlain (c : Char) : Bool :=
  pathPlain c && !("/:;=@[\\]^|".toList.contains c)

/-- Characters that stand for themselves in a query; the web schemes also encode the
apostrophe. -/
def queryPlain (special : Bool) (c : Char) : Bool :=
  isPrintable c && !(" \"#<>".toList.contains c) && !(special && c == '\'')

end Uri

end AsmExplorer
