import Extraction.Error
import Extraction.Url.Domain
import Extraction.Url.Percent

/-!
# Hosts

The host of an address in its written form: a domain name, an IPv4 address, an IPv6 address in
brackets or, in an address of no special scheme, a text of no further structure.

## Main definitions

* `Host.read`: a host of a special address
* `Host.readOpaque`: a host of any other address
-/

namespace Extraction.Url.Host

/-! ### IPv4 -/

/-- The number that a part of an IPv4 address writes, in octal after `0` and in hexadecimal after
`0x`; none if it is no number. -/
def number? (s : Text) : Option Nat :=
  let value (base : Nat) (digits : Text) : Option Nat :=
    if digits.isEmpty then some 0 else Text.digits? base digits
  match s with
  | [] => none
  | '0' :: 'x' :: rest | '0' :: 'X' :: rest => value 16 rest
  | '0' :: c :: rest => value 8 (c :: rest)
  | s => value 10 s

/-- The parts of a name, less an empty one at its end. -/
def parts (name : Text) : List Text :=
  let all := Text.splitOn ['.'] name
  if all.length ≠ 1 ∧ all.getLast? = some [] then all.dropLast else all

/-- Whether a name is to be read as an IPv4 address: its last part is a number. -/
def endsInNumber (name : Text) : Bool :=
  match (parts name).getLast? with
  | some [] | none => false
  | some last => last.all Char.isDigit || (number? last).isSome

/-- The IPv4 address that numbers make up. Each is a byte, of which the first has the given weight;
the last one fills up the bytes that are left. -/
def ipv4Value : (weight : Nat) → List Nat → Nat
  | _, [] => 0
  | _, [last] => last
  | weight, n :: rest => n * weight + ipv4Value (weight / 256) rest

/-- The usual form of an IPv4 address. -/
def ipv4Text (address : Nat) : Text :=
  ['.'].intercalate <|
    [address / 16777216, address / 65536 % 256, address / 256 % 256, address % 256].map Text.ofNat

/-- The IPv4 address that a name writes, in its usual form. -/
def ipv4 (name : Text) : Except UrlFault Text := do
  let some numbers := (parts name).mapM number? | throw .invalidIpv4
  let some last := numbers.getLast? | throw .invalidIpv4
  let front := numbers.dropLast
  if front.length > 3 ∨ last ≥ Nat.pow 256 (4 - front.length) ∨ front.any (· > 255) then throw .invalidIpv4
  return ipv4Text (ipv4Value 16777216 numbers)

/-! ### IPv6 -/

/-- The value of at most four hexadecimal digits at the start of a text, and the text after them. -/
def piece (s : Text) : Nat × Text :=
  let digits := (s.take 4).takeWhile fun c => (Text.digitValue? 16 c).isSome
  ((Text.digits? 16 digits).getD 0, s.drop digits.length)

/-- The two pieces that an IPv4 address at the end of an IPv6 address stands for. -/
def embedded? (s : Text) : Option (List Nat) := do
  let bytes ← (Text.splitOn ['.'] s).mapM fun part =>
    if (part.length > 1 && part.head? == some '0') || part.length > 3 then none
    else (Text.digits? 10 part).filter (· ≤ 255)
  match bytes with
  | [a, b, c, d] => some [a * 256 + b, c * 256 + d]
  | _ => none

/-- Pieces of an IPv6 address with colons between them, where an IPv4 address may come last; none
where the text is not of that form. The fuel is the length of the text. -/
def pieces? : (fuel : Nat) → Text → Option (List Nat)
  | 0, _ => none
  | fuel + 1, s =>
    let (value, rest) := piece s
    if rest.length = s.length then none
    else
      match rest with
      | [] => some [value]
      | ':' :: more => (pieces? fuel more).map (value :: ·)
      | '.' :: _ => embedded? s
      | _ => none

/-- The pieces of one side of `::`, which may be none. -/
def side? (s : Text) : Option (List Nat) := if s.isEmpty then some [] else pieces? s.length s

/-- The eight pieces of an IPv6 address. -/
def address? (s : Text) : Option (List Nat) :=
  match Text.splitOnce? [':', ':'] s with
  | none => (pieces? s.length s).filter (·.length == 8)
  | some (before, after) => do
    let front ← side? before
    let back ← side? after
    if before.elem '.' then none
    else if front.length + back.length > 7 then none
    else some (front ++ List.replicate (8 - front.length - back.length) 0 ++ back)

/-- How many pieces at the start are zero. -/
def leadingZeros (ps : List Nat) : Nat := (ps.takeWhile (· == 0)).length

/-- Where the first of the longest runs of zero pieces starts, if one has two pieces or more, and
how long it is. -/
def longestZeros (ps : List Nat) : Nat × Nat :=
  (List.range ps.length).foldl (fun (start, count) i =>
    let n := leadingZeros (ps.drop i)
    if n > count ∧ n > 1 then (i, n) else (start, count)) (0, 0)

/-- A number in hexadecimal. -/
def hex (n : Nat) : Text := Nat.toDigits 16 n

/-- Pieces in hexadecimal with colons between them. -/
def colons (ps : List Nat) : Text := [':'].intercalate (ps.map hex)

/-- The pieces of an IPv6 address, where two colons stand for the longest run of zero pieces. -/
def compressed (ps : List Nat) : Text :=
  match longestZeros ps with
  | (_, 0) => colons ps
  | (start, count) => colons (ps.take start) ++ [':', ':'] ++ colons (ps.drop (start + count))

/-- The usual form of an IPv6 address. -/
def ipv6Text (ps : List Nat) : Text := '[' :: compressed ps ++ [']']

/-- The IPv6 address between brackets. -/
def ipv6 (s : Text) : Except UrlFault Text :=
  match s.getLast? with
  | some ']' =>
    match address? s.dropLast with
    | some ps => .ok (ipv6Text ps)
    | none => .error .invalidIpv6
  | _ => .error .invalidIpv6

/-! ### Hosts -/

/-- A host of a special address. -/
def read (s : Text) : Except UrlFault Text :=
  match s with
  | '[' :: rest => ipv6 rest
  | s =>
    match Domain.toAscii? (Utf8.decode (percentDecode (Utf8.encode s))) with
    | none => .error .invalidDomain
    | some [] => .error .emptyHost
    | some name => if endsInNumber name then ipv4 name else .ok name

/-- The characters that a host of an address that is not special may not hold. -/
def isHostMark (c : Char) : Bool :=
  ['\x00', '\t', '\n', '\r', ' ', '#', '/', ':', '<', '>', '?', '@', '[', '\\', ']', '^', '|'].elem c

/-- A host of an address that is not special. -/
def readOpaque (s : Text) : Except UrlFault Text :=
  match s with
  | '[' :: rest => ipv6 rest
  | s =>
    if s.any isHostMark then .error .forbiddenCharacter
    else .ok (percentEncode forbiddenOpaque s)

end Extraction.Url.Host
