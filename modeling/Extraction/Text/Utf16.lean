import Extraction.Text.Basic

/-!
# UTF-16

Strings of 16-bit units. A character beyond U+FFFF is two units, a surrogate pair; a surrogate that
stands alone is no character, but a string of units may hold it.

## Main definitions

* `Utf16`: a string of units
* `Utf16.ofText`: the units of a text
* `Utf16.toText`: the text of a string, lone surrogates written as escapes
* `Utf16.codePoints`: the numbers of the characters, a lone surrogate counting as one
-/

namespace Extraction

/-- A string of 16-bit units. -/
abbrev Utf16 := Array UInt16

namespace Utf16

/-- The units of a code point. -/
def ofCodePoint (n : Nat) : List UInt16 :=
  if n < 0x10000 then [UInt16.ofNat n]
  else
    let m := n - 0x10000
    [UInt16.ofNat (0xD800 + m / 0x400), UInt16.ofNat (0xDC00 + m % 0x400)]

/-- The units of a text. -/
def ofText (s : Text) : Utf16 :=
  s.foldl (fun acc c => (ofCodePoint c.toNat).foldl Array.push acc) #[]

/-- The units of a fixed word. -/
def ofWord (s : String) : Utf16 := ofText s.toList

/-- Whether a unit is the first half of a pair. -/
def isLead (n : Nat) : Bool := 0xD800 ≤ n && n < 0xDC00

/-- Whether a unit is the second half of a pair. -/
def isTrail (n : Nat) : Bool := 0xDC00 ≤ n && n < 0xE000

/-- The code point of a pair. -/
def joinPair (lead trail : Nat) : Nat := 0x10000 + (lead - 0xD800) * 0x400 + (trail - 0xDC00)

/-- The code points of a list of units. -/
def codePointsOf : List UInt16 → List Nat
  | [] => []
  | [a] => [a.toNat]
  | a :: b :: rest =>
    if isLead a.toNat && isTrail b.toNat then joinPair a.toNat b.toNat :: codePointsOf rest
    else a.toNat :: codePointsOf (b :: rest)

/-- The code points of a string. -/
def codePoints (s : Utf16) : List Nat := codePointsOf s.toList

/-- The code point that begins at a position, and the number of its units. -/
def codePointAt? (s : Utf16) (i : Nat) : Option (Nat × Nat) :=
  match s[i]? with
  | none => none
  | some a =>
    match s[i + 1]? with
    | some b =>
      if isLead a.toNat && isTrail b.toNat then some (joinPair a.toNat b.toNat, 2)
      else some (a.toNat, 1)
    | none => some (a.toNat, 1)

/-- The string of a list of code points. -/
def ofCodePoints (ns : List Nat) : Utf16 :=
  ns.foldl (fun acc n => (ofCodePoint n).foldl Array.push acc) #[]

/-- A hexadecimal digit, letters as capitals. -/
def hexDigit (n : Nat) : Char := if n < 10 then Char.ofNat (48 + n) else Char.ofNat (55 + n)

/-- A code point as text; a lone surrogate as a backslash, a `u` and four hexadecimal digits. -/
def writeCodePoint (n : Nat) : Text :=
  if 0xD800 ≤ n && n < 0xE000 then
    ['\\', 'u', hexDigit (n / 4096), hexDigit (n / 256 % 16), hexDigit (n / 16 % 16),
      hexDigit (n % 16)]
  else [Char.ofNat n]

/-- The text of a string, lone surrogates written as escapes. -/
def toText (s : Utf16) : Text := (codePoints s).flatMap writeCodePoint

/-- The text of a string if it holds no lone surrogate. -/
def toText? (s : Utf16) : Option Text :=
  (codePoints s).mapM fun n => if 0xD800 ≤ n && n < 0xE000 then none else some (Char.ofNat n)

/-- A function of texts on the stretches of a string between its lone surrogates. -/
def mapText (f : Text → Text) (s : Utf16) : Utf16 :=
  let flush (run : List Nat) (acc : Utf16) : Utf16 :=
    if run.isEmpty then acc else acc ++ ofText (f (run.reverse.map Char.ofNat))
  let (run, acc) := (codePoints s).foldl (fun (run, acc) n =>
    if 0xD800 ≤ n && n < 0xE000 then ([], (flush run acc).push (UInt16.ofNat n))
    else (n :: run, acc)) (([] : List Nat), (#[] : Utf16))
  flush run acc

/-- Whether `needle` stands in the string at a position. -/
def occursAt (s needle : Utf16) (i : Nat) : Bool :=
  i + needle.size ≤ s.size && (List.range needle.size).all fun k => s[i + k]? == needle[k]?

/-- The first position at which `needle` stands, from position `i` on, among the next `fuel`. -/
def findFrom? (s needle : Utf16) : (fuel i : Nat) → Option Nat
  | 0, _ => none
  | fuel + 1, i => if occursAt s needle i then some i else findFrom? s needle fuel (i + 1)

/-- The first position of `needle` from position `i` on. -/
def indexOf? (s needle : Utf16) (i : Nat) : Option Nat := findFrom? s needle (s.size + 1 - i) i

/-- The last position of `needle` up to position `i`. -/
def lastIndexOf? (s needle : Utf16) : (i : Nat) → Option Nat
  | 0 => if occursAt s needle 0 then some 0 else none
  | i + 1 => if occursAt s needle (i + 1) then some (i + 1) else lastIndexOf? s needle i

/-- Whether one string comes before another, compared unit by unit. -/
def before (s t : Utf16) : Bool := go s.toList t.toList
where
  /-- The comparison of lists of units. -/
  go : List UInt16 → List UInt16 → Bool
    | _, [] => false
    | [], _ :: _ => true
    | a :: s, b :: t => a < b || (a == b && go s t)

/-- A string so many times over. -/
def replicate (n : Nat) (s : Utf16) : Utf16 := n.fold (fun _ _ acc => acc ++ s) #[]

end Utf16

end Extraction
