import Extraction.Decimal.Shortest
import Extraction.Text.Utf16

/-!
# Numbers of scripts

A number is a double. Whole numbers that fit 32 bits are kept apart as integers as long as the
operations on them stay exact and whole; a double that a division or a function gives stays a
double even if it is whole. The distinction shows only where a result is written as JSON.

## Main definitions

* `Number`: the numbers
* `Number.add` and its kin: the operations
* `Number.toText`: the decimal form, with exponents from 21 digits on
* `Number.ofText`: the number that a text writes
* `Number.inRadix`, `Number.fixed`, `Number.exponential`, `Number.precise`: other forms
-/

namespace Extraction.Script

/-- A double, or a whole number of 32 bits. -/
inductive Number where
  | int (n : Int)
  | float (x : Float)

namespace Number

/-- Whether an integer fits 32 bits, signed. -/
def fits (n : Int) : Bool := -2147483648 ≤ n && n ≤ 2147483647

/-- The double nearest to an integer. -/
def floatOfInt (n : Int) : Float :=
  match n with
  | .ofNat n => Float.ofScientific n false 0
  | .negSucc n => -(Float.ofScientific (n + 1) false 0)

/-- The number of an integer. -/
def ofInt (n : Int) : Number := if fits n then .int n else .float (floatOfInt n)

/-- The number of a natural number. -/
def ofNat (n : Nat) : Number := ofInt n

/-- The number that is none. -/
def nan : Number := .float (0.0 / 0.0)

/-- The double that a number is. -/
def toFloat : Number → Float
  | int n => floatOfInt n
  | float x => x

/-- Positive infinity. -/
def infinity : Float := 1.0 / 0.0

/-- Whether the sign bit of a double is set. -/
def signBit (x : Float) : Bool := x.toBits.toNat >>> 63 == 1

/-- Whether a double is neither infinite nor no number. -/
def isFinite (x : Float) : Bool := !(x.isNaN || x.isInf)

/-- The whole part of a finite double. -/
def truncate (x : Float) : Int :=
  let b := Binary.ofFloat x
  let magnitude :=
    if 0 ≤ b.exponent then b.significand <<< b.exponent.toNat
    else b.significand >>> (-b.exponent).toNat
  if signBit x then -(magnitude : Int) else magnitude

/-- A double without its fraction. -/
def truncFloat (x : Float) : Float := if signBit x then x.ceil else x.floor

/-- A double as an integer if it is one of 32 bits; minus zero is none. -/
def narrow (x : Float) : Number :=
  if isFinite x && x.abs ≤ 2147483648.0 && x == x.floor && !(x == 0.0 && signBit x) then
    ofInt (truncate x)
  else .float x

/-- The number that a literal writes. -/
def ofLiteral (x : Float) : Number := narrow x

/-- Whether the number is zero or none. -/
def isFalsy (n : Number) : Bool :=
  match n with
  | int n => n == 0
  | float x => x.isNaN || x == 0.0

/-! ### Arithmetic -/

/-- The sum. -/
def add : Number → Number → Number
  | int a, int b => ofInt (a + b)
  | a, b => .float (a.toFloat + b.toFloat)

/-- The difference. -/
def sub : Number → Number → Number
  | int a, int b => ofInt (a - b)
  | a, b => .float (a.toFloat - b.toFloat)

/-- The product; zero times a negative number is minus zero. -/
def mul : Number → Number → Number
  | int a, int b =>
    let p := a * b
    if fits p && (p != 0 || (0 ≤ a && 0 ≤ b)) then .int p
    else .float (floatOfInt a * floatOfInt b)
  | a, b => .float (a.toFloat * b.toFloat)

/-- The quotient. -/
def div : Number → Number → Number
  | int a, int b =>
    if b != 0 && Int.tmod a b == 0 && fits (Int.tdiv a b) then .int (Int.tdiv a b)
    else .float (floatOfInt a / floatOfInt b)
  | a, b => .float (a.toFloat / b.toFloat)

/-- The double `n · 2 ^ e`, where it is one. -/
def scaled (n : Nat) (e : Int) : Float :=
  let spare := n.log2 - 62
  (Float.ofScientific (n >>> spare) false 0).scaleB (e + spare)

/-- The remainder of two finite doubles, with the sign of the first. -/
def remFloat (x y : Float) : Float :=
  if x.isNaN || y.isNaN || x.isInf || y == 0.0 then 0.0 / 0.0
  else if y.isInf || x == 0.0 then x
  else
    let a := Binary.ofFloat x
    let b := Binary.ofFloat y
    let e := min a.exponent b.exponent
    let r := (a.significand <<< (a.exponent - e).toNat) % (b.significand <<< (b.exponent - e).toNat)
    let m := scaled r e
    if signBit x then -m else m

/-- The remainder. -/
def rem : Number → Number → Number
  | int a, int b =>
    if b == 0 then nan
    else
      let r := Int.tmod a b
      if r == 0 && a < 0 then .float (-0.0) else .int r
  | a, b => .float (remFloat a.toFloat b.toFloat)

/-- A power with a whole exponent by repeated squaring. -/
def squaring : (fuel : Nat) → (base acc : Float) → (e : Nat) → Float
  | 0, _, acc, _ => acc
  | fuel + 1, base, acc, e =>
    let acc := if e % 2 == 1 then acc * base else acc
    if e / 2 == 0 then acc else squaring fuel (base * base) acc (e / 2)

/-- A power with an integer exponent. -/
def powInt (x : Float) (e : Int) : Float :=
  let p := squaring 64 x 1.0 e.natAbs
  if e < 0 then 1.0 / p else p

/-- A power of doubles. One to an infinite power is no number. -/
def powFloat (x y : Float) : Float :=
  if y.isNaN || (x.abs == 1.0 && y.isInf) then 0.0 / 0.0 else Float.pow x y

/-- The power. -/
def pow : Number → Number → Number
  | int a, int b =>
    if 0 ≤ b && (a.natAbs ≤ 1 || b ≤ 31) && fits (Int.pow a b.toNat) then .int (Int.pow a b.toNat)
    else .float (powInt (floatOfInt a) b)
  | float x, int b => .float (powInt x b)
  | a, float y => .float (powFloat a.toFloat y)

/-- The negative. -/
def neg : Number → Number
  | int n => if n == 0 then .float (-0.0) else ofInt (-n)
  | float x => .float (-x)

/-- One more, as counting goes. -/
def succ : Number → Number
  | int n => if n < 2147483647 then .int (n + 1) else .float (floatOfInt n + 1.0)
  | float x => .float (x + 1.0)

/-- One less. -/
def pred : Number → Number
  | int n => if -2147483648 < n then .int (n - 1) else .float (floatOfInt n - 1.0)
  | float x => .float (x - 1.0)

/-! ### Words of 32 bits -/

/-- The number modulo `2 ^ 32`. -/
def toWord : Number → Nat
  | int n => (n % 4294967296).toNat
  | float x => if isFinite x then (truncate x % 4294967296).toNat else 0

/-- The signed reading of a word. -/
def signed (w : Nat) : Int := if w < 2147483648 then w else (w : Int) - 4294967296

/-- The number as a signed word. -/
def toSigned (n : Number) : Int := signed n.toWord

/-- Both numbers as words under an operation that acts bit by bit. -/
def bitwise (f : Nat → Nat → Nat) (a b : Number) : Number :=
  .int (signed (f a.toWord b.toWord % 4294967296))

/-- Bits moved up. -/
def shiftLeft (a b : Number) : Number := .int (signed (a.toWord <<< (b.toWord % 32) % 4294967296))

/-- Bits moved down, the sign kept. -/
def shiftRight (a b : Number) : Number := .int (a.toSigned / ((1 <<< (b.toWord % 32) : Nat) : Int))

/-- Bits moved down, zeros moved in. -/
def shiftRightZero (a b : Number) : Number := ofNat (a.toWord >>> (b.toWord % 32))

/-- Bits inverted. -/
def bitNot (a : Number) : Number := .int (-(a.toSigned) - 1)

/-! ### Comparison -/

/-- Equality; what is no number equals nothing. -/
def eq : Number → Number → Bool
  | int a, int b => a == b
  | a, b => a.toFloat == b.toFloat

/-- Whether one is less than another; none if one of them is no number. -/
def lt? : Number → Number → Option Bool
  | int a, int b => some (a < b)
  | a, b =>
    let x := a.toFloat
    let y := b.toFloat
    if x.isNaN || y.isNaN then none else some (x < y)

/-- Sameness of values: no number is the same as itself, and zeros differ by sign if `signs`. -/
def same (signs : Bool) (a b : Number) : Bool :=
  let x := a.toFloat
  let y := b.toFloat
  if x.isNaN && y.isNaN then true
  else x == y && !(signs && x == 0.0 && signBit x != signBit y)

/-! ### Decimal form -/

/-- The decimal form of a double: positional for exponents from -7 to 20. -/
def floatText (x : Float) : Text :=
  if x.isNaN then "NaN".toList
  else if x == 0.0 then ['0']
  else
    let magnitude :=
      if x.isInf then "Infinity".toList
      else
        let d := (Binary.ofFloat x).shortest
        if -6 < d.point && d.point ≤ 21 then d.plain else d.scientific
    if signBit x then '-' :: magnitude else magnitude

/-- The decimal form. -/
def toText : Number → Text
  | int n => Text.ofInt n
  | float x => floatText x

/-! ### Reading -/

/-- The blanks of scripts: white space and line ends. -/
def isSpaceCode (n : Nat) : Bool :=
  n == 9 || n == 10 || n == 11 || n == 12 || n == 13 || n == 0x20 || n == 0xA0 || n == 0xFEFF ||
    n == 0x1680 || (0x2000 ≤ n && n ≤ 0x200A) || n == 0x2028 || n == 0x2029 || n == 0x202F ||
    n == 0x205F || n == 0x3000

/-- Whether a character is a blank of scripts. -/
def isSpace (c : Char) : Bool := isSpaceCode c.toNat

/-- The text without blanks at its ends. -/
def trimSpace (s : Text) : Text :=
  ((s.dropWhile isSpace).reverse.dropWhile isSpace).reverse

/-- The number that decimal digits write, an unreadable digit counting nothing. -/
def ofDigits (base : Nat) (ds : Text) : Nat :=
  ds.foldl (fun acc c => acc * base + (Text.digitValue? base c).getD 0) 0

/-- The double `digits · 10 ^ e` for a text of decimal digits. -/
def decimalFloat (digits : Text) (e : Int) : Float :=
  let digits := digits.dropWhile (· == '0')
  if digits.isEmpty then 0.0
  else if 400 < digits.length + e then infinity
  else if digits.length + e < -400 then 0.0
  else
    let n := ofDigits 10 digits
    if 0 ≤ e then Float.ofScientific n false e.toNat else Float.ofScientific n true (-e).toNat

/-- The exponent at the start of a text, zero if none stands there, and the text after it. -/
def readExponent (s : Text) : Int × Text :=
  match s with
  | e :: rest =>
    if e == 'e' || e == 'E' then
      let (negative, body) := match rest with
        | '-' :: body => (true, body)
        | '+' :: body => (false, body)
        | body => (false, body)
      let ds := body.takeWhile Char.isDigit
      if ds.isEmpty then (0, s)
      else
        -- past this many digits the sign of the exponent decides alone
        let n : Nat := if (ds.dropWhile (· == '0')).length > 9 then 999999999 else ofDigits 10 ds
        (if negative then -(n : Int) else n, body.dropWhile Char.isDigit)
    else (0, s)
  | [] => (0, s)

/-- The decimal number without sign at the start of a text, and the text after it. -/
def readDecimal? (s : Text) : Option (Float × Text) :=
  let whole := s.takeWhile Char.isDigit
  let rest := s.dropWhile Char.isDigit
  let (fraction, rest) := match rest with
    | '.' :: body => (body.takeWhile Char.isDigit,
        if whole.isEmpty && (body.takeWhile Char.isDigit).isEmpty then rest
        else body.dropWhile Char.isDigit)
    | _ => ([], rest)
  if whole.isEmpty && fraction.isEmpty then none
  else
    let (e, rest) := readExponent rest
    some (decimalFloat (whole ++ fraction) (e - fraction.length), rest)

/-- The number with a sign, or an infinity, at the start of a text, and the text after it. -/
def readSigned? (s : Text) : Option (Float × Text) :=
  let (negative, body) := match s with
    | '-' :: body => (true, body)
    | '+' :: body => (false, body)
    | body => (false, body)
  let found := match "Infinity".toList.isPrefixOf? body with
    | some rest => some (infinity, rest)
    | none => readDecimal? body
  found.map fun (x, rest) => (if negative then -x else x, rest)

/-- The double of a number in another base. -/
def ofBase (base : Nat) (ds : Text) : Option Float :=
  if ds.isEmpty || ds.any (fun c => (Text.digitValue? base c).isNone) then none
  else some (Float.ofScientific (ofDigits base ds) false 0)

/-- The number that a whole text writes: nothing is zero, and what writes no number is none. -/
def ofText (s : Text) : Float :=
  let s := trimSpace s
  match s with
  | [] => 0.0
  | '0' :: 'x' :: ds | '0' :: 'X' :: ds => (ofBase 16 ds).getD (0.0 / 0.0)
  | '0' :: 'o' :: ds | '0' :: 'O' :: ds => (ofBase 8 ds).getD (0.0 / 0.0)
  | '0' :: 'b' :: ds | '0' :: 'B' :: ds => (ofBase 2 ds).getD (0.0 / 0.0)
  | s =>
    match readSigned? s with
    | some (x, []) => x
    | _ => 0.0 / 0.0

/-- The number at the start of a text, blanks in front disregarded. -/
def readFloat (s : Text) : Float :=
  match readSigned? (s.dropWhile isSpace) with
  | some (x, _) => x
  | none => 0.0 / 0.0

/-- The integer in a base at the start of a text, blanks in front disregarded. Base zero is ten, or
sixteen if the digits say so. -/
def readInteger (s : Text) (radix : Int) : Float :=
  let s := s.dropWhile isSpace
  let (negative, s) := match s with
    | '-' :: body => (true, body)
    | '+' :: body => (false, body)
    | body => (false, body)
  if radix != 0 && (radix < 2 || 36 < radix) then 0.0 / 0.0
  else
    let hexadecimal := match s with
      | '0' :: 'x' :: ds | '0' :: 'X' :: ds => if radix == 0 || radix == 16 then some ds else none
      | _ => none
    let (base, s) := match hexadecimal with
      | some ds => (16, ds)
      | none => (if radix == 0 then 10 else radix.toNat, s)
    let ds := s.takeWhile fun c => (Text.digitValue? base c).isSome
    if ds.isEmpty then 0.0 / 0.0
    else
      let x := if base == 10 then decimalFloat ds 0 else Float.ofScientific (ofDigits base ds) false 0
      if negative then -x else x

/-! ### Other forms -/

/-- The magnitude of a double as a fraction of natural numbers. -/
def ratio (x : Float) : Nat × Nat :=
  let b := Binary.ofFloat x
  if 0 ≤ b.exponent then (b.significand <<< b.exponent.toNat, 1)
  else (b.significand, 1 <<< (-b.exponent).toNat)

/-- The quotient rounded to the nearest integer; a half goes to the even one, or up if `up`. -/
def roundRatio (up : Bool) (num den : Nat) : Nat :=
  let q := num / den
  let r := num % den
  if 2 * r < den then q
  else if den < 2 * r then q + 1
  else if up || q % 2 == 1 then q + 1 else q

/-- A text of digits with zeros put in front up to a length. -/
def padDigits (n : Nat) (ds : Text) : Text := List.replicate (n - ds.length) '0' ++ ds

/-- A finite double with so many digits after the point. -/
def fixed (x : Float) (places : Nat) : Text :=
  let (num, den) := ratio x
  let ds := padDigits (places + 1) (Text.ofNat (roundRatio false (num * Nat.pow 10 places) den))
  let whole := ds.take (ds.length - places)
  let fraction := ds.drop (ds.length - places)
  let body := if fraction.isEmpty then whole else whole ++ '.' :: fraction
  if signBit x then '-' :: body else body

/-- The exponent of the first decimal digit of a positive fraction, counted down from `e`. -/
def leadingExponent (num den : Nat) : (fuel : Nat) → (e : Int) → Int
  | 0, e => e
  | fuel + 1, e =>
    let (up, down) := Binary.powerRatio 10 e
    if up * den ≤ num * down then e else leadingExponent num den fuel (e - 1)

/-- The first `count` digits of a positive double and the exponent of the first one. -/
def leadingDigits (up : Bool) (x : Float) (count : Nat) : Text × Int :=
  let (num, den) := ratio x
  let b := Binary.ofFloat x
  let guess := ((b.significand.log2 : Int) + b.exponent) * 30103 / 100000 + 2
  let e := leadingExponent num den 8 guess
  let (times, per) := Binary.powerRatio 10 ((count : Int) - 1 - e)
  let n := roundRatio up (num * times) (den * per)
  let ds := Text.ofNat n
  if count < ds.length then (ds.take count, e + 1) else (ds, e)

/-- An exponent with its sign. -/
def exponentText (e : Int) : Text :=
  'e' :: (if 0 ≤ e then ['+'] else ['-']) ++ Text.ofNat e.natAbs

/-- Digits with a point after the first one. -/
def pointAfterFirst : Text → Text
  | [] => []
  | [c] => [c]
  | c :: cs => c :: '.' :: cs

/-- A finite double with an exponent, and so many digits after the point if a number is given, or
as many as needed. -/
def exponential (x : Float) (places : Option Nat) : Text :=
  let (ds, e) :=
    if x == 0.0 then (List.replicate (places.getD 0 + 1) '0', 0)
    else
      match places with
      | some n => leadingDigits false x (n + 1)
      | none =>
        let d := (Binary.ofFloat x).shortest
        (d.text, d.point - 1)
  let body := pointAfterFirst ds ++ exponentText e
  if signBit x && x != 0.0 then '-' :: body else body

/-- A finite double with so many digits in all. -/
def precise (x : Float) (count : Nat) : Text :=
  let (ds, e) := if x == 0.0 then (List.replicate count '0', 0) else leadingDigits true x count
  let body :=
    if e < -6 || (count : Int) ≤ e then
      pointAfterFirst ds ++ (if 0 ≤ e then exponentText e else 'e' :: '-' :: Text.ofNat e.natAbs)
    else if e == (count : Int) - 1 then ds
    else if 0 ≤ e then ds.take (e.toNat + 1) ++ '.' :: ds.drop (e.toNat + 1)
    else "0.".toList ++ List.replicate ((-e).toNat - 1) '0' ++ ds
  if signBit x && x != 0.0 then '-' :: body else body

/-- A digit of a base up to 36. -/
def radixDigit (n : Nat) : Char := if n < 10 then Char.ofNat (48 + n) else Char.ofNat (87 + n)

/-- The digits of a natural number in a base, at most `fuel` of them. -/
def radixDigits (base : Nat) : (fuel n : Nat) → Text → Text
  | 0, _, acc => acc
  | fuel + 1, n, acc =>
    let acc := radixDigit (n % base) :: acc
    if n / base == 0 then acc else radixDigits base fuel (n / base) acc

/-- The digits of the fraction `num / den` below one in a base, as many as tell it from its
neighbours, which are `gap / den` away; and whether the last digit is rounded up. -/
def fractionDigits (base : Nat) : (fuel num gap den : Nat) → List Nat × Bool
  | 0, _, _, _ => ([], false)
  | fuel + 1, num, gap, den =>
    let num := num * base
    let gap := gap * base
    let digit := num / den
    let rest := num % den
    if den < 2 * rest || (2 * rest == den && digit % 2 == 1) then
      if den < rest + gap then ([digit], true)
      else if rest < gap then ([digit], false)
      else
        let (ds, up) := fractionDigits base fuel rest gap den
        (digit :: ds, up)
    else if rest < gap then ([digit], false)
    else
      let (ds, up) := fractionDigits base fuel rest gap den
      (digit :: ds, up)

/-- One more in the last digit, carried from digit to digit: whether a carry is left over, and the
digits, those that become zero at the end dropped. -/
def carry (base : Nat) : List Nat → Bool × List Nat
  | [] => (true, [])
  | d :: ds =>
    let (carried, ds) := carry base ds
    if carried then
      if d + 1 < base then (false, [d + 1]) else (true, [])
    else (false, d :: ds)

/-- A number in a base from 2 to 36. -/
def inRadix (n : Number) (base : Nat) : Text :=
  if base == 10 then n.toText
  else
    let x := n.toFloat
    if x.isNaN then "NaN".toList
    else if x.isInf then (if signBit x then "-Infinity".toList else "Infinity".toList)
    else
      let (num, den) := ratio x
      let whole := num / den
      let num := num % den
      let (whole, fraction) :=
        if num == 0 then (whole, [])
        else
          -- half the gap to the next double, carried twice the denominator
          let (ds, up) := fractionDigits base 1100 (2 * num) 1 (2 * den)
          if up then
            let (carried, ds) := carry base ds
            (if carried then whole + 1 else whole, ds)
          else (whole, ds)
      let body := radixDigits base 1100 whole []
      let body :=
        if fraction.isEmpty then body else body ++ '.' :: fraction.map radixDigit
      if signBit x && x != 0.0 then '-' :: body else body

end Number

end Extraction.Script
