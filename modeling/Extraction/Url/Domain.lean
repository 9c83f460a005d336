import Extraction.Text.CaseMap
import Extraction.Text.Normalize
import Extraction.Url.Punycode

/-!
# Domain names

A domain name in its ASCII form. Characters are first mapped to small letters and composed
compatibility forms, and characters without a look are dropped; then every label that still holds
characters outside ASCII is written in Punycode behind `xn--`.

## Main definitions

* `Domain.toAscii?`: the ASCII form of a domain name, if it has one
-/

namespace Extraction.Url.Domain

/-- The ASCII characters that no domain name may hold. -/
def isForbidden (c : Char) : Bool :=
  c.toNat ≤ 0x20 || c.toNat == 0x7F ||
    ['%', '#', '/', ':', '<', '>', '?', '@', '[', '\\', ']', '^', '|'].elem c

/-- Characters that are dropped from domain names. -/
def isIgnored (n : Nat) : Bool :=
  n == 0xAD || n == 0x34F || (0x180B ≤ n && n ≤ 0x180F && n != 0x180E) || n == 0x200B ||
    n == 0x2060 || n == 0x2064 || (0xFE00 ≤ n && n ≤ 0xFE0F) || n == 0xFEFF ||
    (0x1BCA0 ≤ n && n ≤ 0x1BCA3) || (0xE0100 ≤ n && n ≤ 0xE01EF)

/-- Characters that are kept although folding would change or drop them: the two joiners, the
sharp s and the final sigma. -/
def isKept (n : Nat) : Bool := n == 0xDF || n == 0x3C2 || n == 0x200C || n == 0x200D

/-- The canonical composed form. -/
def composedForm : Text.NormalForm := ⟨true, false⟩

/-- The compatible composed form. -/
def compatibleForm : Text.NormalForm := ⟨true, true⟩

/-- What one character is mapped to. The capital sharp s goes to the small one, which is kept, and
not to the two letters that folding makes of it. -/
def mapChar (c : Char) : Text :=
  if c.toNat < 128 then [c.toLower]
  else if isKept c.toNat then [c]
  else if c.toNat = 0x1E9E then [Char.ofNat 0xDF]
  else if isIgnored c.toNat then []
  else
    (Text.normalize compatibleForm (Text.foldCase (Text.normalize compatibleForm
      (Text.foldCase [c])))).map fun d => if d.toNat = 0x3002 then '.' else d

/-- What a text is mapped to. -/
def mapped (s : Text) : Text :=
  if s.all (·.toNat < 128) then Text.lowerAscii s
  else Text.normalize composedForm (s.flatMap mapChar)

/-- Whether a character may stand in the mapped form of a label. -/
def isAllowed (c : Char) : Bool :=
  if c.toNat < 128 then !isForbidden c && !c.isUpper
  else
    isKept c.toNat ||
      !(["Cc", "Cf", "Cs", "Co", "Cn", "Zs", "Zl", "Zp"].any (Text.hasCategory · c.toNat) ||
        isIgnored c.toNat || c.toNat == 0xFFFC || c.toNat == 0xFFFD ||
        (0x2FF0 ≤ c.toNat && c.toNat ≤ 0x2FFF))

/-- Whether a joiner stands only where it may, right after a character that joins. -/
def joinersPlaced : (before : Nat) → Text → Bool
  | _, [] => true
  | before, c :: rest =>
    (!(c.toNat == 0x200C || c.toNat == 0x200D) || Text.combiningClass before == 9) &&
      joinersPlaced c.toNat rest

/-- Whether a label that holds characters outside ASCII is well formed: it is mapped to itself, does
not begin with a mark, and holds only what labels may hold. -/
def isLabel (label : Text) : Bool :=
  mapped label == label && label.all (fun c => isAllowed c && c != '.') && joinersPlaced 0 label &&
    match label with
    | c :: _ => !(["Mn", "Mc", "Me"].any (Text.hasCategory · c.toNat))
    | [] => true

/-- How many characters a label may have that is written in Punycode. -/
def maxLabelLength : Nat := 1000

/-- The ASCII form of a mapped label. A label that comes in Punycode must be one that would be
written so. -/
def labelToAscii? (label : Text) : Option Text :=
  match "xn--".toList.isPrefixOf? label with
  | some code =>
    if label.all (·.toNat < 128) then
      (Punycode.decode? code).bind fun s =>
        if !s.all (·.toNat < 128) && isLabel s && Punycode.encode s == code then some label else none
    else none
  | none =>
    if label.all (·.toNat < 128) then if label.all isAllowed then some label else none
    else if label.length ≤ maxLabelLength && isLabel label then
      some ("xn--".toList ++ Punycode.encode label)
    else none

/-- The ASCII form of a domain name. -/
def toAscii? (s : Text) : Option Text :=
  ((Text.splitOn ['.'] (mapped s)).mapM labelToAscii?).map (['.'].intercalate ·)

end Extraction.Url.Domain
