import Extraction.Text.Basic

/-!
# Addresses

An address in parts, and its text.

## Main definitions

* `Url`: an address
* `Url.toText`: its text
* `SchemeKind`: what the scheme says of the other parts
-/

namespace Extraction

/-- Whether a scheme belongs to the web's own, and whether it is the one of files. -/
inductive SchemeKind where
  | file
  | special
  | other
  deriving DecidableEq

namespace SchemeKind

/-- Whether a backslash separates segments and a host is required. -/
def isSpecial (k : SchemeKind) : Bool := k != .other

/-- The kind of a scheme in small letters. -/
def of (scheme : Text) : SchemeKind :=
  if scheme = "file".toList then .file
  else if ["http".toList, "https".toList, "ws".toList, "wss".toList, "ftp".toList].elem scheme then
    .special
  else .other

end SchemeKind

/-- Who answers at an address: the user part with its `@`, empty if there is none, the host, and
the port, if it is not the usual one. -/
structure Authority where
  user : Text
  host : Text
  port : Option Nat

/-- An address in parts. -/
structure Url where
  scheme : Text
  authority : Option Authority
  path : Text
  query : Option Text
  fragment : Option Text

namespace Url

/-- The port that a scheme means when none is written. -/
def defaultPort? (scheme : Text) : Option Nat :=
  if scheme = "http".toList ∨ scheme = "ws".toList then some 80
  else if scheme = "https".toList ∨ scheme = "wss".toList then some 443
  else if scheme = "ftp".toList then some 21
  else none

/-- The text of an authority. -/
def authorityText (a : Authority) : Text :=
  ['/', '/'] ++ a.user ++ a.host ++
    match a.port with
    | some n => ':' :: Text.ofNat n
    | none => []

/-- The text of an address. A path that begins with two slashes gets `/.` in front where it would
be taken for an authority. -/
def toText (u : Url) : Text :=
  u.scheme ++ [':'] ++
    (match u.authority with
      | some a => authorityText a
      | none => if ['/', '/'].isPrefixOf u.path then ['/', '.'] else []) ++
    u.path ++
    (match u.query with
      | some q => '?' :: q
      | none => []) ++
    match u.fragment with
    | some f => '#' :: f
    | none => []

/-- Whether the path is no list of segments, so that nothing can be relative to it. -/
def isOpaque (u : Url) : Bool := u.authority.isNone && u.path.head? != some '/'

/-- What kind of scheme the address has. -/
def kind (u : Url) : SchemeKind := SchemeKind.of u.scheme

end Url

end Extraction
