import Extraction.Text.Utf8

/-!
# Percent encoding

Bytes that a part of an address may not hold are written as `%` and two hexadecimal digits. Each
part has its own set of them.
-/

namespace Extraction.Url

/-- A hexadecimal digit, in capitals. -/
def hexDigit (n : Nat) : Char := Char.ofNat (if n < 10 then 48 + n else 55 + n)

/-- One byte, percent-encoded. -/
def percentByte (b : Nat) : Text := ['%', hexDigit (b / 16), hexDigit (b % 16)]

/-- One character, percent-encoded whatever it is. -/
def percentChar (c : Char) : Text := (Utf8.encodeChar c).flatMap percentByte

/-- A text with the characters outside ASCII, the controls and the characters that `forbidden`
holds of percent-encoded. -/
def percentEncode (forbidden : Char → Bool) (s : Text) : Text :=
  s.flatMap fun c =>
    if c.toNat < 0x20 || 0x7F ≤ c.toNat || forbidden c then percentChar c else [c]

/-- What a path that is no list of segments may not hold. -/
def forbiddenOpaque (_ : Char) : Bool := false

/-- What a fragment may not hold. -/
def forbiddenFragment (c : Char) : Bool := [' ', '"', '<', '>', '\x60'].elem c

/-- What a path may not hold. -/
def forbiddenPath (c : Char) : Bool :=
  forbiddenFragment c || ['#', '?', '\x7b', '\x7d'].elem c

/-- What a user name or a password may not hold. -/
def forbiddenUser (c : Char) : Bool :=
  forbiddenPath c || ['/', ':', ';', '=', '@', '[', '\\', ']', '^', '|'].elem c

/-- What a query may not hold; in a `special` address it may not hold a single quote either. -/
def forbiddenQuery (special : Bool) (c : Char) : Bool :=
  [' ', '"', '#', '<', '>'].elem c || (special && c == '\'')

/-- The bytes with every `%` that two hexadecimal digits follow decoded. -/
def percentDecode : List Nat → List Nat
  | 37 :: a :: b :: rest =>
    match Text.digitValue? 16 (Char.ofNat a), Text.digitValue? 16 (Char.ofNat b) with
    | some x, some y => (x * 16 + y) :: percentDecode rest
    | _, _ => 37 :: percentDecode (a :: b :: rest)
  | b :: rest => b :: percentDecode rest
  | [] => []

end Extraction.Url
