import Extraction.Json.Basic

/-!
# Reading JSON

A strict reader: one value with white space around it, at most 127 arrays and objects inside one
another, every escaped surrogate paired, no float beyond the finite ones.

A float is read by arithmetic on floats: the significand, cut to 64 bits, times or divided by a
power of ten. So the last digit of a number with more than nineteen digits may not be the nearest.

Values that a reader of settings passes over are checked for their form alone (`lenient`): their
depth, the pairing of their surrogates and the size of their numbers do not count.
-/

namespace Extraction

namespace Json.Reader

/-- The white space of JSON. -/
def isSpace (c : Char) : Bool := c == ' ' || c == '\n' || c == '\t' || c == '\r'

/-- The text after leading white space. -/
def skipSpace (s : Text) : Text := s.dropWhile isSpace

/-- The largest unsigned 64-bit word. -/
def maxWord : Nat := 18446744073709551615

/-- Digits taken into a significand as long as it fits a word: the significand, how many digits it
took, and how many are left over. -/
def absorb (significand taken : Nat) : Text → Nat × Nat × Nat
  | [] => (significand, taken, 0)
  | c :: cs =>
    let next := significand * 10 + (c.toNat - 48)
    if next ≤ maxWord then absorb next (taken + 1) cs else (significand, taken, cs.length + 1)

/-- A power of ten as a float. -/
def tenTo (n : Nat) : Float := Float.ofScientific 1 false n

/-- `x · 10 ^ e` by one multiplication or division, after as many divisions by `10 ^ 308` as an
exponent below `-308` needs. -/
def scale? : (fuel : Nat) → Float → Int → Option Float
  | 0, _, _ => none
  | fuel + 1, x, e =>
    if e.natAbs ≤ 308 then
      if 0 ≤ e then
        let y := x * tenTo e.natAbs
        if y.isInf then none else some y
      else some (x / tenTo e.natAbs)
    else if x == 0 then some x
    else if 0 ≤ e then none
    else scale? fuel (x / tenTo 308) (e + 308)

/-- The parts of a number as written. -/
structure Numeral where
  negative : Bool
  whole : Text
  fraction : Option Text
  /-- Whether the exponent is negative, and its digits. -/
  exponent : Option (Bool × Text)

/-- The largest exponent whose size is taken as it is. -/
def maxExponent : Nat := 2147483647

/-- The number that a numeral stands for, if it is finite. -/
def Numeral.value? (n : Numeral) : Option Number :=
  let sign (x : Float) : Float := if n.negative then -x else x
  let (whole, _, left) := absorb 0 0 n.whole
  match n.fraction, n.exponent with
  | none, none =>
    if left = 0 then
      if n.negative then
        if whole = 0 || 9223372036854775808 < whole then some (.float (-whole.toUInt64.toFloat))
        else some (.int (-whole))
      else some (.int whole)
    else (scale? 4 whole.toUInt64.toFloat left).map fun x => .float (sign x)
  | fraction, exponent =>
    let (significand, taken, _) := absorb whole 0 (fraction.getD [])
    let shift : Int := (left : Int) - taken
    match exponent with
    | none => (scale? 4 significand.toUInt64.toFloat shift).map fun x => .float (sign x)
    | some (negative, digits) =>
      let size := (Text.digits? 10 digits).getD 0
      if maxExponent < size then
        if significand ≠ 0 && !negative then none else some (.float (sign 0))
      else
        let e : Int := if negative then shift - size else shift + size
        (scale? 4 significand.toUInt64.toFloat e).map fun x => .float (sign x)

/-- A numeral at the start of a text. -/
def numeral? (s : Text) : Option (Numeral × Text) :=
  let (negative, s) := match s with
    | '-' :: rest => (true, rest)
    | s => (false, s)
  let whole := s.takeWhile Char.isDigit
  let s := s.dropWhile Char.isDigit
  if whole.isEmpty || (whole.head? == some '0' && 1 < whole.length) then none
  else
    let fraction? : Option (Option Text × Text) := match s with
      | '.' :: rest =>
        let digits := rest.takeWhile Char.isDigit
        if digits.isEmpty then none else some (some digits, rest.dropWhile Char.isDigit)
      | s => some (none, s)
    fraction?.bind fun (fraction, s) =>
      let exponentPart (rest : Text) : Option (Numeral × Text) :=
        let (down, rest) := match rest with
          | '+' :: r => (false, r)
          | '-' :: r => (true, r)
          | r => (false, r)
        let digits := rest.takeWhile Char.isDigit
        if digits.isEmpty then none
        else some (⟨negative, whole, fraction, some (down, digits)⟩, rest.dropWhile Char.isDigit)
      match s with
      | 'e' :: rest => exponentPart rest
      | 'E' :: rest => exponentPart rest
      | s => some (⟨negative, whole, fraction, none⟩, s)

/-- The code unit that four hexadecimal digits write, and what follows them. -/
def unit? (s : Text) : Option (Nat × Text) :=
  match s with
  | a :: b :: c :: d :: rest => (Text.digits? 16 [a, b, c, d]).map (·, rest)
  | _ => none

/-- The character of an escape with `u`, after the `u`. -/
def escapedUnit? (lenient : Bool) (s : Text) : Option (Char × Text) :=
  (unit? s).bind fun (n, rest) =>
    if 0xD800 ≤ n && n ≤ 0xDFFF then
      if lenient then some ('?', rest)
      else if n ≤ 0xDBFF then
        match rest with
        | '\\' :: 'u' :: rest =>
          (unit? rest).bind fun (m, rest) =>
            if 0xDC00 ≤ m && m ≤ 0xDFFF then
              some (Char.ofNat (0x10000 + (n - 0xD800) * 0x400 + (m - 0xDC00)), rest)
            else none
        | _ => none
      else none
    else some (Char.ofNat n, rest)

/-- The rest of a string after its opening quotation mark; `read` is what was read of it,
reversed. -/
def string? (lenient : Bool) : (fuel : Nat) → (read : Text) → Text → Option (Text × Text)
  | 0, _, _ => none
  | _ + 1, _, [] => none
  | _ + 1, read, '"' :: rest => some (read.reverse, rest)
  | fuel + 1, read, '\\' :: c :: rest =>
    let plain (x : Char) := string? lenient fuel (x :: read) rest
    if c = '"' || c = '\\' || c = '/' then plain c
    else if c = 'b' then plain (Char.ofNat 8)
    else if c = 'f' then plain (Char.ofNat 12)
    else if c = 'n' then plain '\n'
    else if c = 'r' then plain '\r'
    else if c = 't' then plain '\t'
    else if c = 'u' then
      (escapedUnit? lenient rest).bind fun (x, rest) => string? lenient fuel (x :: read) rest
    else none
  | fuel + 1, read, c :: rest =>
    if c.toNat < 0x20 || c = '\\' then none else string? lenient fuel (c :: read) rest

mutual

/-- A value at the start of a text, with `depth` more arrays or objects allowed inside one
another. -/
def value? (lenient : Bool) : (fuel : Nat) → (depth : Nat) → Text → Option (Json × Text)
  | 0, _, _ => none
  | fuel + 1, depth, s =>
    match skipSpace s with
    | 'n' :: 'u' :: 'l' :: 'l' :: rest => some (.null, rest)
    | 't' :: 'r' :: 'u' :: 'e' :: rest => some (.bool true, rest)
    | 'f' :: 'a' :: 'l' :: 's' :: 'e' :: rest => some (.bool false, rest)
    | '"' :: rest => (string? lenient (rest.length + 1) [] rest).map fun (t, rest) => (.str t, rest)
    | '[' :: rest =>
      if depth = 0 && !lenient then none
      else
        match skipSpace rest with
        | ']' :: rest => some (.arr [], rest)
        | _ =>
          (items? lenient fuel (depth - 1) rest).map fun (items, rest) => (.arr items, rest)
    | '{' :: rest =>
      if depth = 0 && !lenient then none
      else
        match skipSpace rest with
        | '}' :: rest => some (.obj [], rest)
        | _ =>
          (members? lenient (fun _ => lenient) fuel (depth - 1) rest).map
            fun (members, rest) => (ofMembers members, rest)
    | s =>
      (numeral? s).bind fun (n, rest) =>
        if lenient then some (.null, rest) else n.value?.map fun n => (.num n, rest)

/-- The items of an array up to its closing bracket. -/
def items? (lenient : Bool) : (fuel : Nat) → (depth : Nat) → Text → Option (List Json × Text)
  | 0, _, _ => none
  | fuel + 1, depth, s =>
    (value? lenient fuel depth s).bind fun (v, rest) =>
      match skipSpace rest with
      | ',' :: rest => (items? lenient fuel depth rest).map fun (vs, rest) => (v :: vs, rest)
      | ']' :: rest => some ([v], rest)
      | _ => none

/-- The members of an object up to its closing brace, in the order written; `passedOver` says
which keys have values that only their form matters of. -/
def members? (lenient : Bool) (passedOver : Text → Bool) :
    (fuel : Nat) → (depth : Nat) → Text → Option (List (Text × Json) × Text)
  | 0, _, _ => none
  | fuel + 1, depth, s =>
    match skipSpace s with
    | '"' :: rest =>
      (string? lenient (rest.length + 1) [] rest).bind fun (k, rest) =>
        match skipSpace rest with
        | ':' :: rest =>
          (value? (passedOver k) fuel depth rest).bind fun (v, rest) =>
            match skipSpace rest with
            | ',' :: rest =>
              (members? lenient passedOver fuel depth rest).map
                fun (ms, rest) => ((k, v) :: ms, rest)
            | '}' :: rest => some ([(k, v)], rest)
            | _ => none
        | _ => none
    | _ => none

end

/-- How many arrays and objects may stand inside one another. -/
def maxDepth : Nat := 127

/-- What a reader found, if only white space follows it. -/
def whole? {α : Type} : Option (α × Text) → Option α
  | some (a, rest) => if (skipSpace rest).isEmpty then some a else none
  | none => none

end Json.Reader

/-- The value that a text writes. -/
def Json.parse? (s : Text) : Option Json :=
  Reader.whole? (Reader.value? false (2 * s.length + 2) Reader.maxDepth s)

/-- The members that a text writes as one object, in the order written and with repeated keys kept.
Values under keys that are `passedOver` are checked for their form alone. -/
def Json.parseMembers? (passedOver : Text → Bool) (s : Text) : Option (List (Text × Json)) :=
  match Reader.skipSpace s with
  | '{' :: rest =>
    match Reader.skipSpace rest with
    | '}' :: rest => Reader.whole? (some ([], rest))
    | _ =>
      Reader.whole?
        (Reader.members? false passedOver (2 * s.length + 2) (Reader.maxDepth - 1) rest)
  | _ => none

end Extraction
