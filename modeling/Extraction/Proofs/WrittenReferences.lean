import Extraction.Markup.BasicReference
import Extraction.Proofs.TextFacts
import Mathlib.Data.List.Forall2

/-!
# References that are written and decoded

Every character of a text may be written as a reference, by one of its names or by its number, and
every character but the ampersand may stand for itself. Decoding gives the text back whichever way
each of its characters is written: no reference reaches into what stands beside it, and what a
reference stands for is not read again.

## Main definitions

* `Text.Numeral`: the ways to write a number, with zeros in front and digits of either case
* `Markup.Writes`: the ways to write a character
-/

namespace Extraction

namespace Text

/-! ### Numerals -/

/-- The text writes a number in a base: the digits of the number, the letters among them of either
case, after any number of zeros. -/
def Numeral (base n : Nat) (s : Text) : Prop :=
  ∃ zeros, lowerAscii s = List.replicate zeros '0' ++ Nat.toDigits base n

theorem digitValue?_eq (base : Nat) (c : Char) : digitValue? base c =
    (if 48 ≤ c.toNat ∧ c.toNat ≤ 57 then some (c.toNat - 48)
    else if 97 ≤ c.toNat ∧ c.toNat ≤ 122 then some (c.toNat - 87)
    else if 65 ≤ c.toNat ∧ c.toNat ≤ 90 then some (c.toNat - 55)
    else none).filter (· < base) := rfl

theorem toNat_toLower_of_upper {c : Char} (hc : 65 ≤ c.toNat ∧ c.toNat ≤ 90) :
    c.toLower.toNat = c.toNat + 32 := by
  have hlower : c.toLower.toNat = (c.val + 32).toNat := by
    unfold Char.toLower
    rw [dif_pos (show c.val ≥ 'A'.val ∧ c.val ≤ 'Z'.val from hc)]
    rfl
  have hval : c.val.toNat = c.toNat := rfl
  rw [hlower, UInt32.toNat_add, hval]
  simp
  omega

/-- A letter has the same value in either case. -/
theorem digitValue?_toLower (base : Nat) (c : Char) :
    digitValue? base c.toLower = digitValue? base c := by
  by_cases hc : 65 ≤ c.toNat ∧ c.toNat ≤ 90
  · rw [digitValue?_eq, digitValue?_eq, toNat_toLower_of_upper hc, if_neg (by omega),
      if_pos (by omega), if_neg (by omega), if_neg (by omega), if_pos hc]
    congr 2
  · rw [toLower_of_not_upper hc]

theorem not_upper_toLower (c : Char) : ¬ (65 ≤ c.toLower.toNat ∧ c.toLower.toNat ≤ 90) := by
  by_cases hc : 65 ≤ c.toNat ∧ c.toNat ≤ 90
  · rw [toNat_toLower_of_upper hc]
    omega
  · rwa [toLower_of_not_upper hc]

/-- The number that digits make after others that make `acc`. -/
def readDigits (base acc : Nat) (s : Text) : Option Nat :=
  s.foldlM (fun acc c => (digitValue? base c).map (acc * base + ·)) acc

theorem digits?_eq_readDigits {base : Nat} {s : Text} (hs : s ≠ []) :
    digits? base s = readDigits base 0 s := by
  cases s with
  | nil => exact (hs rfl).elim
  | cons c s => rfl

theorem readDigits_append (base acc : Nat) (s t : Text) :
    readDigits base acc (s ++ t) = (readDigits base acc s).bind (readDigits base · t) :=
  List.foldlM_append

theorem readDigits_lowerAscii (base acc : Nat) (s : Text) :
    readDigits base acc (lowerAscii s) = readDigits base acc s := by
  rw [readDigits, lowerAscii, List.foldlM_map]
  simp only [digitValue?_toLower]
  rfl

section Base

variable {base : Nat} (hbase : 1 < base)
  (hdigit : ∀ d < base, digitValue? base (Nat.digitChar d) = some d)

include hbase hdigit

theorem readDigits_zeros (zeros : Nat) :
    readDigits base 0 (List.replicate zeros '0') = some 0 := by
  have hzero : digitValue? base '0' = some 0 := hdigit 0 (by omega)
  induction zeros with
  | zero => rfl
  | succ zeros ih =>
    rw [List.replicate_succ, readDigits, List.foldlM_cons, hzero]
    simpa [readDigits] using ih

theorem readDigits_toDigits (n : Nat) : readDigits base 0 (Nat.toDigits base n) = some n := by
  -- By induction on the number: its last digit is read after those of its quotient by the base.
  induction n using Nat.strong_induction_on with
  | _ n ih =>
    by_cases hn : n < base
    · rw [Nat.toDigits_of_lt_base hn]
      simp [readDigits, hdigit n hn]
    · have hquotient : n / base < n := Nat.div_lt_self (by omega) hbase
      have hlast := hdigit (n % base) (Nat.mod_lt n (by omega))
      rw [Nat.toDigits_of_base_le hbase (by omega), readDigits_append, ih _ hquotient]
      simp [readDigits, hlast, Nat.div_add_mod']

theorem digits?_of_numeral {n : Nat} {s : Text} (h : Numeral base n s) :
    digits? base s = some n := by
  obtain ⟨zeros, hs⟩ := h
  have hne : s ≠ [] := by
    rintro rfl
    have hnil : Nat.toDigits base n = [] := (List.append_eq_nil_iff.1 hs.symm).2
    exact Nat.toDigits_ne_nil hnil
  rw [digits?_eq_readDigits hne, ← readDigits_lowerAscii, hs, readDigits_append,
    readDigits_zeros hbase hdigit]
  exact readDigits_toDigits hbase hdigit n

end Base

section Digits

variable {base n : Nat} {s : Text}

theorem digitValue?_of_readDigits {acc : Nat} (h : readDigits base acc s = some n) :
    ∀ c ∈ s, digitValue? base c ≠ none := by
  induction s generalizing acc with
  | nil => exact fun c hc => (List.not_mem_nil hc).elim
  | cons c s ih =>
    rw [readDigits, List.foldlM_cons] at h
    obtain ⟨acc', hacc, hrest⟩ := Option.bind_eq_some_iff.1 h
    rw [List.forall_mem_cons]
    refine ⟨fun hnone => ?_, ih hrest⟩
    rw [hnone] at hacc
    cases hacc

/-- Only digits stand in a text that writes a number. -/
theorem notMem_of_digits? (h : digits? base s = some n) {c : Char}
    (hc : digitValue? base c = none) : c ∉ s := by
  have hne : s ≠ [] := by
    rintro rfl
    cases h
  rw [digits?_eq_readDigits hne] at h
  exact fun hmem => digitValue?_of_readDigits h c hmem hc

theorem digitValue?_eq_none (base : Nat) {c : Char} (hc : c ∈ ['+', ';']) :
    digitValue? base c = none := by
  simp only [List.mem_cons, List.not_mem_nil, or_false] at hc
  rcases hc with rfl | rfl <;> rfl

theorem unsigned?_of_digits? (h : digits? base s = some n) {max : Nat} (hn : n ≤ max) :
    unsigned? base max s = some n := by
  have hsign : '+' ∉ s := notMem_of_digits? h (digitValue?_eq_none base (by decide))
  unfold unsigned?
  split
  · exact (hsign List.mem_cons_self).elim
  · simp [h, hn]

end Digits

end Text

namespace Markup

open Text

/-! ### One reference -/

/-- The character that the text between an ampersand and a semicolon stands for. -/
def basicBody? : Text → Option Char
  | '#' :: number => basicNumbered? number
  | name => basicNamed? name

/-- A reference whose name or number is short enough and ends at the semicolon is read as that. -/
theorem basicReference?_append {body : Text} (hlength : body.length ≤ 10) (hend : ';' ∉ body)
    (t : Text) : basicReference? (body ++ ';' :: t) = (basicBody? body).map (·, t) := by
  have hbody : ((body ++ ';' :: t).take 10).takeWhile (· != ';') = body := by
    have hall : ∀ c ∈ body, (c != ';') = true := by
      intro c hc
      simpa using fun h : c = ';' => hend (h ▸ hc)
    rw [List.take_append, List.take_of_length_le hlength, List.takeWhile_append_of_pos hall]
    cases 10 - body.length <;> simp
  unfold basicReference?
  simp only [hbody, List.drop_left]
  rfl

/-- The names of the references. -/
def basicNames : List Text :=
  ["amp".toList, "lt".toList, "gt".toList, "quot".toList] ++ latinNames

theorem mem_basicNames_of_basicNamed? {name : Text} {c : Char} (h : basicNamed? name = some c) :
    name ∈ basicNames := by
  unfold basicNamed? at h
  split at h
  · next hname => simp [basicNames, hname]
  split at h
  · next hname => simp [basicNames, hname]
  split at h
  · next hname => simp [basicNames, hname]
  split at h
  · next hname => simp [basicNames, hname]
  · obtain ⟨i, hi, -⟩ := Option.map_eq_some_iff.1 h
    obtain ⟨hlt, hname, -⟩ := List.findIdx?_eq_some_iff_getElem.1 hi
    exact List.mem_append_right _ (beq_iff_eq.1 hname ▸ List.getElem_mem hlt)

/-- Every name is short, ends before a semicolon and is none of a number. -/
theorem name_of_mem_basicNames : ∀ name ∈ basicNames,
    name.length ≤ 10 ∧ ';' ∉ name ∧ name.head? ≠ some '#' := by
  have hlatin : ∀ name ∈ latinNames, name.length ≤ 10 ∧ ';' ∉ name ∧ name.head? ≠ some '#' := by
    rw [latinNames, String.toList_ofList]
    decide +kernel
  exact List.forall_mem_append.2 ⟨by decide, hlatin⟩

section Numbered

variable {c : Char} {digits : Text}

theorem ofNat_of_number (c : Char) :
    (if c.toNat.isValidChar then some (Char.ofNat c.toNat) else none) = some c := by
  have hvalid : c.toNat.isValidChar := c.valid
  rw [if_pos hvalid, Char.ofNat_toNat]

theorem toNat_le (c : Char) : c.toNat ≤ 0xFFFFFFFF := Nat.le_of_lt_succ c.val.toNat_lt

theorem basicNumbered?_decimal (h : digits? 10 digits = some c.toNat) :
    basicNumbered? digits = some c := by
  have hlower : 'x' ∉ digits := notMem_of_digits? h rfl
  have hupper : 'X' ∉ digits := notMem_of_digits? h rfl
  unfold basicNumbered?
  split
  · exact (hlower List.mem_cons_self).elim
  · exact (hupper List.mem_cons_self).elim
  · rw [unsigned?_of_digits? h (toNat_le c)]
    exact ofNat_of_number c

theorem basicNumbered?_hexadecimal {x : Char} (hx : x = 'x' ∨ x = 'X')
    (h : digits? 16 digits = some c.toNat) : basicNumbered? (x :: digits) = some c := by
  have hnumber := unsigned?_of_digits? h (toNat_le c)
  rcases hx with rfl | rfl <;>
  · unfold basicNumbered?
    simp only [hnumber]
    exact ofNat_of_number c

end Numbered

/-! ### Texts -/

/-- The ways to write a character: as itself, unless it is an ampersand, by a name, and by its
number in decimal or hexadecimal digits, with ten characters at most between the ampersand and the
semicolon. -/
inductive Writes : Char → Text → Prop
  | itself {c : Char} : c ≠ '&' → Writes c [c]
  | named {c : Char} {name : Text} : basicNamed? name = some c →
      Writes c ('&' :: (name ++ [';']))
  | decimal {c : Char} {digits : Text} : Numeral 10 c.toNat digits →
      ('#' :: digits).length ≤ 10 → Writes c ('&' :: ('#' :: digits ++ [';']))
  | hexadecimal {c x : Char} {digits : Text} : x = 'x' ∨ x = 'X' → Numeral 16 c.toNat digits →
      ('#' :: x :: digits).length ≤ 10 → Writes c ('&' :: ('#' :: x :: digits ++ [';']))

theorem unescapeBasic_reference {s rest : Text} {c : Char}
    (h : basicReference? s = some (c, rest)) :
    unescapeBasic ('&' :: s) = c :: unescapeBasic rest := by
  rw [unescapeBasic, if_pos rfl]
  split
  · next hread =>
    rw [h] at hread
    cases hread
    rfl
  · next hread =>
    rw [h] at hread
    cases hread

/-- What writes a character is read as that character, whatever follows. -/
theorem Writes.unescapeBasic_append {c : Char} {s : Text} (h : Writes c s) (t : Text) :
    unescapeBasic (s ++ t) = c :: unescapeBasic t := by
  -- A reference is read up to its semicolon.
  have hreference {body : Text} (hlength : body.length ≤ 10) (hend : ';' ∉ body)
      (hread : basicBody? body = some c) :
      unescapeBasic ('&' :: (body ++ [';']) ++ t) = c :: unescapeBasic t := by
    have hassoc : '&' :: (body ++ [';']) ++ t = '&' :: (body ++ ';' :: t) := by simp
    rw [hassoc]
    refine unescapeBasic_reference ?_
    rw [basicReference?_append hlength hend, hread]
    rfl
  cases h with
  | itself hc =>
    rw [List.singleton_append, unescapeBasic, if_neg hc]
  | @named name hname =>
    obtain ⟨hlength, hend, hhead⟩ :=
      name_of_mem_basicNames name (mem_basicNames_of_basicNamed? hname)
    refine hreference hlength hend ?_
    unfold basicBody?
    split
    · exact (hhead rfl).elim
    · exact hname
  | @decimal digits hdigits hlength =>
    have hvalue := digits?_of_numeral (by decide) (by decide) hdigits
    refine hreference hlength ?_ (basicNumbered?_decimal hvalue)
    simpa using notMem_of_digits? hvalue rfl
  | @hexadecimal x digits hx hdigits hlength =>
    have hvalue := digits?_of_numeral (by decide) (by decide) hdigits
    refine hreference hlength ?_ (basicNumbered?_hexadecimal hx hvalue)
    have hmark : x ≠ ';' := by rcases hx with rfl | rfl <;> decide
    simpa [hmark.symm] using notMem_of_digits? hvalue rfl

/-- Decoding gives back a text of which each character is written in any of its ways, whatever the
ways of its neighbours; what is decoded is not decoded again. -/
theorem unescapeBasic_written {t : Text} {pieces : List Text} (h : List.Forall₂ Writes t pieces) :
    unescapeBasic pieces.flatten = t := by
  induction h with
  | nil => rw [List.flatten_nil, unescapeBasic]
  | cons hc _ ih => rw [List.flatten_cons, hc.unescapeBasic_append, ih]

/-- An ampersand by its name before what would be a reference, letters by a name and by numbers with
zeros and digits of either case, and an ampersand at the end by its number. -/
theorem unescapeBasic_written_ampersand :
    let t := "&lt;é中&".toList
    let pieces :=
      ["&amp;", "l", "t", ";", "&eacute;", "&#X004e2D;", "&#00000038;"].map String.toList
    List.Forall₂ Writes t pieces ∧ unescapeBasic pieces.flatten = t := by
  intro t pieces
  have hamp : Writes '&' "&amp;".toList := by
    have hname : basicNamed? "amp".toList = some '&' := by decide +kernel
    exact .named hname
  have hacute : Writes 'é' "&eacute;".toList := by
    have hindex : latinNames.findIdx? (· == "eacute".toList) = some 73 := by
      rw [latinNames, String.toList_ofList, String.toList_ofList]
      decide +kernel
    have hname : basicNamed? "eacute".toList = some 'é' := by
      rw [basicNamed?, hindex]
      decide
    exact .named hname
  have hhexadecimal : Writes '中' "&#X004e2D;".toList := by
    have hdigits : Numeral 16 '中'.toNat "004e2D".toList := ⟨2, by decide +kernel⟩
    exact .hexadecimal (.inr rfl) hdigits (by decide)
  have hdecimal : Writes '&' "&#00000038;".toList := by
    have hdigits : Numeral 10 '&'.toNat "00000038".toList := ⟨6, by decide +kernel⟩
    exact .decimal hdigits (by decide)
  have hpieces : List.Forall₂ Writes t pieces :=
    .cons hamp <| .cons (.itself (by decide)) <| .cons (.itself (by decide)) <|
      .cons (.itself (by decide)) <| .cons hacute <| .cons hhexadecimal <| .cons hdecimal .nil
  exact ⟨hpieces, unescapeBasic_written hpieces⟩

end Markup

end Extraction
