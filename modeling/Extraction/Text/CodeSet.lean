import Extraction.Text.Basic

/-!
# Sets of code points

A set of code points is an increasing array of disjoint ranges, so that membership is a binary
search. Tables of a standard are written as hexadecimal ranges separated by spaces.
-/

namespace Extraction.Text

/-- An increasing array of disjoint ranges, both ends included. -/
structure CodeSet where
  ranges : Array (Nat × Nat)

namespace CodeSet

/-- Whether the range that may hold `n`, sought among those with index in `[lo, hi)`, holds it. -/
def search (ranges : Array (Nat × Nat)) (n : Nat) : (fuel lo hi : Nat) → Bool
  | 0, _, _ => false
  | fuel + 1, lo, hi =>
    if lo < hi then
      let mid := (lo + hi) / 2
      match ranges[mid]? with
      | none => false
      | some (first, last) =>
        if n < first then search ranges n fuel lo mid
        else if last < n then search ranges n fuel (mid + 1) hi
        else true
    else false

/-- Whether the code point belongs to the set. -/
def contains (s : CodeSet) (n : Nat) : Bool := search s.ranges n s.ranges.size 0 s.ranges.size

/-- The number that hexadecimal digits write. -/
def hex (s : Text) : Nat := (digits? 16 s).getD 0

/-- One range of a table: a code point, or two with a hyphen between them. -/
def readRange (s : Text) : Nat × Nat :=
  match splitOnce? ['-'] s with
  | some (first, last) => (hex first, hex last)
  | none => (hex s, hex s)

/-- The set that a table of hexadecimal ranges writes. -/
def ofHex (table : String) : CodeSet := ⟨((words table.toList).map readRange).toArray⟩

end CodeSet

end Extraction.Text
