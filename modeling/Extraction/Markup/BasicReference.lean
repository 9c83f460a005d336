import Extraction.Text.Basic

/-!
# The references of early markup

The first versions of HTML knew a hundred names: four for the characters that markup itself uses
and one for each of the upper half of Latin-1. References with these names and references by number
are decoded; all else stays as it is.

## Main definitions

* `Markup.unescapeBasic`: a text with these references decoded
-/

namespace Extraction.Markup

/-- The names of the characters from U+00A0 to U+00FF, in order. -/
def latinNames : List Text :=
  Text.words (
    "nbsp iexcl cent pound curren yen brvbar sect uml copy ordf laquo not shy reg macr deg plusmn
     sup2 sup3 acute micro para middot cedil sup1 ordm raquo frac14 frac12 frac34 iquest Agrave
     Aacute Acirc Atilde Auml Aring AElig Ccedil Egrave Eacute Ecirc Euml Igrave Iacute Icirc Iuml
     ETH Ntilde Ograve Oacute Ocirc Otilde Ouml times Oslash Ugrave Uacute Ucirc Uuml Yacute THORN
     szlig agrave aacute acirc atilde auml aring aelig ccedil egrave eacute ecirc euml igrave iacute
     icirc iuml eth ntilde ograve oacute ocirc otilde ouml divide oslash ugrave uacute ucirc uuml
     yacute thorn yuml").toList

/-- The character that a name stands for. -/
def basicNamed? (name : Text) : Option Char :=
  if name = "amp".toList then some '&'
  else if name = "lt".toList then some '<'
  else if name = "gt".toList then some '>'
  else if name = "quot".toList then some '"'
  else (latinNames.findIdx? (· == name)).map fun i => Char.ofNat (0xA0 + i)

/-- The character that a number stands for, written in decimal digits or, after an `x`, in
hexadecimal ones. A plus sign may stand before the digits. -/
def basicNumbered? (s : Text) : Option Char :=
  let number := match s with
    | 'x' :: digits | 'X' :: digits => Text.unsigned? 16 0xFFFFFFFF digits
    | digits => Text.unsigned? 10 0xFFFFFFFF digits
  number.bind fun n => if n.isValidChar then some (Char.ofNat n) else none

/-- The character of the reference whose ampersand the text follows, and what follows it. At most
ten characters stand between the ampersand and the semicolon. -/
def basicReference? (s : Text) : Option (Char × Text) :=
  let body := (s.take 10).takeWhile (· != ';')
  match s.drop body.length with
  | ';' :: rest =>
    (match body with
      | '#' :: number => basicNumbered? number
      | name => basicNamed? name).map (·, rest)
  | _ => none

theorem length_of_basicReference? {s rest : Text} {c : Char}
    (h : basicReference? s = some (c, rest)) : rest.length < s.length := by
  unfold basicReference? at h
  simp only at h
  split at h
  · rename_i r hr
    rw [Option.map_eq_some_iff] at h
    obtain ⟨a, _, ha⟩ := h
    simp only [Prod.mk.injEq] at ha
    have hl := congrArg List.length hr
    simp only [List.length_drop, List.length_cons] at hl
    rw [← ha.2]
    omega
  · cases h

/-- The text with its references decoded. What a reference stands for is not read again. -/
def unescapeBasic : Text → Text
  | [] => []
  | c :: rest =>
    if c = '&' then
      match _hread : basicReference? rest with
      | some (d, after) => d :: unescapeBasic after
      | none => '&' :: unescapeBasic rest
    else c :: unescapeBasic rest
termination_by s => s.length
decreasing_by
  · have := length_of_basicReference? _hread
    simp only [List.length_cons]
    omega
  all_goals simp only [List.length_cons]; omega

end Extraction.Markup
