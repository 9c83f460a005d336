import Extraction.Proofs.TextFacts
import Extraction.Rule.Marks

/-!
# Blanks are no letters

A set of code points written as a table holds a code point only if one of the written ranges does.
The tables of letters and of numbers have no range that meets a blank, so that a quotation mark
after a blank is never an apostrophe.

## Main definitions

* `blankRanges`: the ranges of the code points of blanks
* `CodeSet.Apart`: sets with no range that meets a blank
-/

namespace Extraction.Text

/-- The code points of blanks. -/
def blankRanges : List (Nat × Nat) :=
  [(9, 13), (0x20, 0x20), (0x85, 0x85), (0xA0, 0xA0), (0x1680, 0x1680), (0x2000, 0x200A),
    (0x2028, 0x2029), (0x202F, 0x202F), (0x205F, 0x205F), (0x3000, 0x3000)]

theorem exists_mem_blankRanges {c : Char} (hc : isBlank c = true) :
    ∃ b ∈ blankRanges, b.1 ≤ c.toNat ∧ c.toNat ≤ b.2 := by
  simp only [isBlank, Bool.or_eq_true, Bool.and_eq_true, decide_eq_true_eq, beq_iff_eq] at hc
  simp only [blankRanges, List.mem_cons, List.not_mem_nil, or_false, exists_eq_or_imp,
    exists_eq_left]
  omega

namespace CodeSet

/-- What is found in a set lies in one of its ranges. -/
theorem exists_range_of_search {ranges : Array (Nat × Nat)} {n fuel lo hi : Nat}
    (h : search ranges n fuel lo hi = true) : ∃ r ∈ ranges, r.1 ≤ n ∧ n ≤ r.2 := by
  induction fuel generalizing lo hi with
  | zero => cases h
  | succ fuel ih =>
    unfold search at h
    split at h
    · dsimp only at h
      split at h
      · cases h
      · next first last hrange =>
        split at h
        · exact ih h
        · next hfirst =>
          split at h
          · exact ih h
          · next hlast =>
            have hmem := Array.mem_of_getElem? hrange
            exact ⟨(first, last), hmem, Nat.le_of_not_lt hfirst, Nat.le_of_not_lt hlast⟩
    · cases h

/-- No range of the set meets a blank. -/
def Apart (s : CodeSet) : Prop := ∀ r ∈ s.ranges, ∀ b ∈ blankRanges, r.2 < b.1 ∨ b.2 < r.1

theorem Apart.contains_of_isBlank {s : CodeSet} (h : s.Apart) {c : Char} (hc : isBlank c = true) :
    s.contains c.toNat = false := by
  rw [← Bool.not_eq_true]
  intro hcontains
  obtain ⟨r, hr, hfirst, hlast⟩ := exists_range_of_search hcontains
  obtain ⟨b, hb, hlow, hhigh⟩ := exists_mem_blankRanges hc
  have hapart := h r hr b hb
  omega

/-- The characters of a written table are what has to be looked through. -/
theorem apart_ofHex {table : String} {chars : Text} (htable : table = String.ofList chars)
    (h : ∀ r ∈ (words chars).map readRange, ∀ b ∈ blankRanges, r.2 < b.1 ∨ b.2 < r.1) :
    (ofHex table).Apart := by
  intro r hr
  rw [ofHex, htable, String.toList_ofList, List.mem_toArray] at hr
  exact h r hr

end CodeSet

set_option maxRecDepth 100000 in
theorem apart_alphabeticTable : alphabeticTable.Apart := by
  unfold alphabeticTable
  refine CodeSet.apart_ofHex rfl ?_
  decide +kernel

set_option maxRecDepth 100000 in
theorem apart_numericTable : numericTable.Apart := by
  unfold numericTable
  refine CodeSet.apart_ofHex rfl ?_
  decide +kernel

/-- No blank is a letter or a digit. -/
theorem isAlphanumeric_of_isBlank {c : Char} (hc : isBlank c = true) :
    isAlphanumeric c = false := by
  have hcode := hc
  simp only [isBlank, Bool.or_eq_true, Bool.and_eq_true, decide_eq_true_eq, beq_iff_eq] at hcode
  have hdigit : c.isDigit = false := by
    rw [← Bool.not_eq_true, isDigit_iff]
    omega
  have halpha : c.isAlpha = false := by
    rw [← Bool.not_eq_true, isAlpha_iff]
    omega
  rw [isAlphanumeric, isAlphabetic, isNumeric, halpha, hdigit,
    apart_alphabeticTable.contains_of_isBlank hc, apart_numericTable.contains_of_isBlank hc,
    Bool.and_false]
  rfl

end Extraction.Text

namespace Extraction.Rule

open Text

/-- After a blank a quotation mark is no apostrophe. -/
theorem opensQuote_of_isBlank {c : Char} (hc : isBlank c = true) : opensQuote (some c) = true := by
  rw [opensQuote, Option.map_some, Option.getD_some, isAlphanumeric_of_isBlank hc]
  rfl

theorem opensQuote_getLast_of_allBlank {t : Text} (ht : AllBlank t) {previous : Option Char}
    (hprevious : opensQuote previous = true) : opensQuote (t.getLast?.or previous) = true := by
  cases hlast : t.getLast? with
  | none => exact hprevious
  | some c => exact opensQuote_of_isBlank (ht c (List.mem_of_getLast? hlast))

end Extraction.Rule
