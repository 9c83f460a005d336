import Extraction.Url.Host
import Extraction.Url.Path

/-!
# Reading addresses

An address is read on its own or relative to a base. A text without a scheme needs a base; one with
the special scheme of its base and fewer than two slashes after it counts as relative, too.

## Main definitions

* `Url.parse`: the address that a text writes, relative to a base if there is one
-/

namespace Extraction.Url

/-- The text as it is read: without controls and spaces at either end, and without tabs and line
ends anywhere. -/
def cleaned (s : Text) : Text :=
  let isEdge (c : Char) : Bool := c.toNat ≤ 0x20
  ((s.dropWhile isEdge).reverse.dropWhile isEdge).reverse.filter fun c =>
    !(c == '\t' || c == '\n' || c == '\r')

/-- Whether a character may stand in a scheme. -/
def isSchemeChar (c : Char) : Bool := c.isAlphanum || ['+', '-', '.'].elem c

/-- The scheme at the start of a text, in small letters, and what follows its colon. -/
def scheme? (s : Text) : Option (Text × Text) :=
  match s with
  | [] => none
  | c :: _ =>
    if c.isAlpha then
      match s.dropWhile isSchemeChar with
      | ':' :: rest => some (Text.lowerAscii (s.takeWhile isSchemeChar), rest)
      | _ => none
    else none

/-- The fragment that a text holds, which is empty or begins with `#`. -/
def fragment? : Text → Option Text
  | '#' :: rest => some (percentEncode forbiddenFragment rest)
  | _ => none

/-- The address with the query and the fragment that a text holds, which is empty or begins with
`?` or `#`. -/
def withTail (kind : SchemeKind) (u : Url) (s : Text) : Url :=
  match s with
  | '?' :: rest =>
    ⟨u.scheme, u.authority, u.path,
      some (percentEncode (forbiddenQuery kind.isSpecial) (rest.takeWhile (· != '#'))),
      fragment? (rest.dropWhile (· != '#'))⟩
  | s => ⟨u.scheme, u.authority, u.path, none, fragment? s⟩

/-- The address with another fragment, where `s` begins with `#`. -/
def withFragment (u : Url) (s : Text) : Url :=
  ⟨u.scheme, u.authority, u.path, u.query, some (percentEncode forbiddenFragment (s.drop 1))⟩

/-- The address with another path and tail. -/
def withPath (kind : SchemeKind) (u : Url) (path tail : Text) : Url :=
  withTail kind ⟨u.scheme, u.authority, path, none, none⟩ tail

/-! ### Authorities -/

/-- Whether a character ends an authority. -/
def endsAuthority (kind : SchemeKind) (c : Char) : Bool :=
  ['/', '?', '#'].elem c || (c == '\\' && kind.isSpecial)

/-- The user part that a text before the last `@` writes. A colon before an empty password is left
out. -/
def userText (s : Text) : Text :=
  let encode := percentEncode forbiddenUser
  let name := encode (s.takeWhile (· != ':'))
  let password := encode ((s.dropWhile (· != ':')).drop 1)
  if password.isEmpty then
    if name.isEmpty then [] else name ++ ['@']
  else name ++ ':' :: password ++ ['@']

/-- The user part at the start of a text, and what follows it. -/
def user (kind : SchemeKind) (s : Text) : Except UrlFault (Text × Text) :=
  let authority := s.takeWhile (!endsAuthority kind ·)
  let after := s.drop authority.length
  if authority.elem '@' then
    let host := (authority.reverse.takeWhile (· != '@')).reverse
    let before := authority.take (authority.length - host.length - 1)
    if before.isEmpty && host.isEmpty && !after.isEmpty then .error .emptyHost
    else .ok (userText before, host ++ after)
  else .ok ([], s)

/-- The text of the host at the start of a text, and what follows it. A colon inside brackets
belongs to the host. -/
def hostText (kind : SchemeKind) (inBrackets : Bool) : Text → Text × Text
  | [] => ([], [])
  | c :: rest =>
    if endsAuthority kind c || (c == ':' && !inBrackets) then ([], c :: rest)
    else
      let inBrackets := if c = '[' then true else if c = ']' then false else inBrackets
      let (host, after) := hostText kind inBrackets rest
      (c :: host, after)

/-- The port at the start of a text, and what follows it. -/
def port (scheme s : Text) : Except UrlFault (Option Nat × Text) :=
  let digits := s.takeWhile Char.isDigit
  let rest := s.drop digits.length
  let tooLarge := match Text.digits? 10 digits with
    | some n => n > 65535
    | none => false
  let cut := match rest with
    | [] => true
    | c :: _ => ['/', '\\', '?', '#'].elem c
  if tooLarge || !cut then .error .invalidPort
  else
    let number := Text.digits? 10 digits
    .ok (if number = defaultPort? scheme then none else number, rest)

/-- The port after a colon at the start of a text, if one is there, and what follows it. -/
def portAfter (scheme : Text) : Text → Except UrlFault (Option Nat × Text)
  | ':' :: rest => port scheme rest
  | rest => .ok (none, rest)

/-- The host that a text writes in an address of the given kind. -/
def readHost (kind : SchemeKind) (s : Text) : Except UrlFault Text :=
  if kind.isSpecial then Host.read s else Host.readOpaque s

/-- The authority at the start of a text, and what follows it. A special address has a host, and
without a host there is neither a user nor a port. -/
def readAuthority (scheme s : Text) : Except UrlFault (Authority × Text) := do
  let kind := SchemeKind.of scheme
  let (user, rest) ← user kind s
  let (host, rest) := hostText kind false rest
  if kind.isSpecial && host.isEmpty then throw .emptyHost
  let host ← readHost kind host
  if host.isEmpty && (rest.head? = some ':' || !user.isEmpty) then throw .emptyHost
  let (port, rest) ← portAfter scheme rest
  return (⟨user, host, port⟩, rest)

/-- The address whose authority a text begins with. -/
def afterSlashes (scheme s : Text) : Except UrlFault Url := do
  let kind := SchemeKind.of scheme
  let (authority, rest) ← readAuthority scheme s
  let (path, _, tail) := Path.start kind true rest
  return withPath kind ⟨scheme, some authority, [], none, none⟩ path tail

/-! ### Files -/

/-- An authority that is only a host. -/
def hostOnly (host : Text) : Authority := ⟨[], host, none⟩

/-- A file address with a host, a path and a tail. -/
def fileUrl (host path tail : Text) : Url :=
  withPath .file ⟨"file".toList, some (hostOnly host), [], none, none⟩ path tail

/-- The file address whose host a text begins with. A drive letter is no host, and beside one no
host is kept. -/
def fileHost (s : Text) : Except UrlFault Url := do
  let name := s.takeWhile fun c => !(['/', '\\', '?', '#'].elem c)
  if Path.isDrive name then
    let (path, _, tail) := Path.extend .file ['/'] s
    return fileUrl [] path tail
  let rest := s.drop name.length
  let host ← if name.isEmpty then pure [] else Host.read name
  let host := if host = "localhost".toList then [] else host
  let (path, drive, tail) := Path.start .file (!host.isEmpty) rest
  return fileUrl (if drive then [] else host) path tail

/-- The host of an address; empty if there is none. -/
def hostOf (u : Url) : Text :=
  match u.authority with
  | some a => a.host
  | none => []

/-- The file address that a text writes, relative to one if there is a base. -/
def file (base : Option Url) (s : Text) : Except UrlFault Url :=
  let isSlash (c : Char) : Bool := c == '/' || c == '\\'
  let fresh : Url :=
    let (path, _, tail) := Path.extend .file ['/'] s
    fileUrl [] path tail
  match s with
  | a :: b :: rest =>
    if isSlash a && isSlash b then fileHost rest
    else if isSlash a then
      .ok (rooted base s)
    else .ok (relative base fresh s)
  | [a] => if isSlash a then .ok (rooted base s) else .ok (relative base fresh s)
  | [] => .ok (relative base fresh s)
where
  /-- The address of a text that begins with one slash: the drive letter or the host is that of the
  base. -/
  rooted (base : Option Url) (s : Text) : Url :=
    let (host, path) :=
      match base with
      | some u =>
        let first := (u.path.drop 1).takeWhile (· != '/')
        if Path.startsWithDrive (s.drop 1) then ([], [])
        else if Path.isNormalDrive first then ([], '/' :: first)
        else (hostOf u, [])
      | none => ([], [])
    let (path, _, tail) := Path.extend .file path s
    fileUrl host path tail
  /-- The address of a text that begins with no slash. -/
  relative (base : Option Url) (fresh : Url) (s : Text) : Url :=
    match base with
    | none => fresh
    | some u =>
      match s with
      | [] => ⟨u.scheme, u.authority, u.path, u.query, none⟩
      | '?' :: _ => withTail .file u s
      | '#' :: _ => withFragment u s
      | s =>
        if Path.startsWithDrive s then fresh
        else
          let (path, _, tail) := Path.extend .file (Path.shorten .file u.path) s
          withPath .file u path tail

/-! ### Addresses -/

/-- The address that a text without a scheme writes, relative to a base that is no file. -/
def relative (base : Url) (s : Text) : Except UrlFault Url :=
  let kind := base.kind
  let isSlash (c : Char) : Bool := c == '/' || c == '\\'
  match s with
  | [] => .ok ⟨base.scheme, base.authority, base.path, base.query, none⟩
  | '?' :: _ => .ok (withTail kind base s)
  | '#' :: _ => .ok (withFragment base s)
  | c :: rest =>
    if isSlash c then
      match rest with
      | d :: more =>
        if isSlash d then
          if c = '/' && d = '/' then afterSlashes base.scheme more
          else afterSlashes base.scheme (s.dropWhile isSlash)
        else
          let (path, _, tail) := Path.extend kind ['/'] rest
          .ok (withPath kind base path tail)
      | [] =>
        let (path, _, tail) := Path.extend kind ['/'] rest
        .ok (withPath kind base path tail)
    else
      let path := Path.pop kind base.path
      let path := if path.isEmpty then ['/'] else path
      let (path, _, tail) := Path.extend kind path s
      .ok (withPath kind base path tail)

/-- The address with a scheme that is not special. -/
def plain (scheme s : Text) : Except UrlFault Url :=
  match s with
  | '/' :: '/' :: rest => afterSlashes scheme rest
  | '/' :: rest =>
    let (path, _, tail) := Path.extend .other ['/'] rest
    .ok (withPath .other ⟨scheme, none, [], none, none⟩ path tail)
  | s =>
    let isTail (c : Char) : Bool := c == '?' || c == '#'
    .ok (withPath .other ⟨scheme, none, [], none, none⟩
      (percentEncode forbiddenOpaque (s.takeWhile (!isTail ·))) (s.dropWhile (!isTail ·)))

/-- The address that a text writes, relative to a base if there is one. -/
def parse (base : Option Url) (s : Text) : Except UrlFault Url :=
  let s := cleaned s
  let isSlash (c : Char) : Bool := c == '/' || c == '\\'
  match scheme? s with
  | some (scheme, rest) =>
    match SchemeKind.of scheme with
    | .file => file (base.filter (·.scheme == scheme)) rest
    | .other => plain scheme rest
    | .special =>
      let slashes := (rest.takeWhile isSlash).length
      match base.filter fun u => slashes < 2 && u.scheme == scheme with
      | some u => relative u rest
      | none => afterSlashes scheme (rest.drop slashes)
  | none =>
    match base with
    | none => .error .relativeWithoutBase
    | some u =>
      if s.head? = some '#' then .ok (withFragment u s)
      else if u.isOpaque then .error .baseCannotBeABase
      else if u.kind = .file then file (some u) s
      else relative u s

end Extraction.Url
