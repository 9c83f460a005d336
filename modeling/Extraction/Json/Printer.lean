import Extraction.Json.Basic

/-!
# Writing JSON

`Json.compact` writes a value without spaces. `Json.plainText` writes it as a rule sees its text:
a string is its own text, null is empty, and a float has neither an exponent nor a fraction that
is zero.
-/

namespace Extraction

namespace Json

/-- A minus sign where the float has one, in front of its magnitude. -/
def signed (x : Float) (magnitude : Text) : Text :=
  if x.toBits.toNat >>> 63 = 1 then '-' :: magnitude else magnitude

/-- A float with a fraction digit or an exponent: positional from `1e-5` up to `1e16`, and with an
exponent elsewhere. -/
def floatText (x : Float) : Text :=
  let d := (Binary.ofFloat x).shortest
  if d.digits = 0 then signed x ['0', '.', '0']
  else if -4 ≤ d.point && d.point ≤ 16 then signed x d.pointed
  else signed x d.scientific

/-- A float in positional notation without an exponent; zero has no sign. -/
def plainFloatText (x : Float) : Text :=
  let d := (Binary.ofFloat x).shortest
  if d.digits = 0 then ['0'] else signed x d.plain

/-- The four lower-case hexadecimal digits of a control character. -/
def controlDigits (c : Char) : Text :=
  let digits := Nat.toDigits 16 c.toNat
  List.replicate (4 - digits.length) '0' ++ digits

/-- One character inside a quoted string. -/
def escapeChar (c : Char) : Text :=
  if c = '"' then ['\\', '"']
  else if c = '\\' then ['\\', '\\']
  else if c = '\n' then ['\\', 'n']
  else if c = '\r' then ['\\', 'r']
  else if c = '\t' then ['\\', 't']
  else if c.toNat = 8 then ['\\', 'b']
  else if c.toNat = 12 then ['\\', 'f']
  else if c.toNat < 0x20 then '\\' :: 'u' :: controlDigits c
  else [c]

/-- A string in quotation marks. -/
def quoted (s : Text) : Text := '"' :: s.flatMap escapeChar ++ ['"']

/-- A number in compact form. -/
def Number.text : Number → Text
  | .int n => Text.ofInt n
  | .float x => floatText x

mutual

/-- The value written without spaces. -/
def compact : Json → Text
  | .null => "null".toList
  | .bool true => "true".toList
  | .bool false => "false".toList
  | .num n => n.text
  | .str s => quoted s
  | .arr items => '[' :: compactItems true items ++ [']']
  | .obj members => '{' :: compactMembers true members ++ ['}']

/-- The items of an array, each but the first after a comma. -/
def compactItems (first : Bool) : List Json → Text
  | [] => []
  | v :: rest => (if first then [] else [',']) ++ compact v ++ compactItems false rest

/-- The members of an object, each but the first after a comma. -/
def compactMembers (first : Bool) : List (Text × Json) → Text
  | [] => []
  | (k, v) :: rest =>
    (if first then [] else [',']) ++ quoted k ++ ':' :: compact v ++ compactMembers false rest

end

/-- The text of a value as rules use it. -/
def plainText : Json → Text
  | .null => []
  | .bool true => "true".toList
  | .bool false => "false".toList
  | .num (.int n) => Text.ofInt n
  | .num (.float x) => plainFloatText x
  | .str s => s
  | v => compact v

/-- The texts of the items of an array, or the one text of any other value. -/
def plainTexts : Json → List Text
  | .arr items => items.map plainText
  | v => [plainText v]

end Json

end Extraction
