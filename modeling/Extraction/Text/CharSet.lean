import Extraction.Text.CodeSet

/-!
# Sets of characters

A set of characters is a predicate on code points together with the code points where its value may
change, so that its ranges are found without trying every code point.

## Main definitions

* `CharSet`: a predicate on code points, constant between its marks
* `CharSet.ranges`: the ranges of a set
-/

namespace Extraction.Text

/-- The largest code point. -/
def maxCode : Nat := 0x10FFFF

/-- A set of characters, given on code points. -/
structure CharSet where
  /-- The code points where a range of the set may begin or may just have ended. -/
  marks : List Nat
  holds : Nat → Bool
  steady : ∀ n, n + 1 ∉ marks → holds (n + 1) = holds n

namespace CharSet

/-- The set without characters. -/
def empty : CharSet := ⟨[], fun _ => false, fun _ _ => rfl⟩

/-- The characters between two, both included. -/
def between (first last : Nat) : CharSet where
  marks := [first, last + 1]
  holds n := first ≤ n && n ≤ last
  steady n h := by
    have hfirst : n + 1 ≠ first := List.ne_of_not_mem_cons h
    have hlast : n + 1 ≠ last + 1 := List.ne_of_not_mem_cons (List.not_mem_of_not_mem_cons h)
    rw [Bool.eq_iff_iff, Bool.and_eq_true, Bool.and_eq_true, decide_eq_true_eq, decide_eq_true_eq,
      decide_eq_true_eq, decide_eq_true_eq]
    omega

/-- The set of one character. -/
def single (n : Nat) : CharSet := between n n

/-- The characters that are not in the set. -/
def compl (s : CharSet) : CharSet where
  marks := s.marks
  holds n := !s.holds n
  steady n h := by rw [s.steady n h]

/-- Two lists in order, merged: the elements of `ys` that are less than `x` come before `x`, and
`rest` merges the others with what follows `x`. -/
def mergeAfter (x : Nat) (xs : List Nat) (rest : List Nat → List Nat) : List Nat → List Nat
  | [] => x :: xs
  | y :: ys => if x ≤ y then x :: rest (y :: ys) else y :: mergeAfter x xs rest ys

/-- Two lists in order, merged by recursion on the one and then the other, so that closed sets can
be evaluated. -/
def merge : List Nat → List Nat → List Nat
  | [], ys => ys
  | x :: xs, ys => mergeAfter x xs (merge xs) ys

theorem merge_eq (xs ys : List Nat) : merge xs ys = xs.merge ys fun a b => a ≤ b := by
  induction xs generalizing ys with
  | nil => rw [merge, List.nil_merge]
  | cons x xs ih =>
    rw [merge]
    induction ys with
    | nil => rw [mergeAfter, List.merge_right]
    | cons y ys ihys =>
      rw [mergeAfter, List.cons_merge_cons, ih, ihys]
      simp only [decide_eq_true_eq]

theorem mem_merge {n : Nat} {xs ys : List Nat} : n ∈ merge xs ys ↔ n ∈ xs ∨ n ∈ ys := by
  rw [merge_eq, List.mem_merge]

/-- The characters for which an operation on two sets' values holds. -/
def combine (op : Bool → Bool → Bool) (s t : CharSet) : CharSet where
  marks := merge s.marks t.marks
  holds n := op (s.holds n) (t.holds n)
  steady n h := by
    rw [mem_merge, not_or] at h
    rw [s.steady n h.1, t.steady n h.2]

/-- The characters that are in one set or the other. -/
def union (s t : CharSet) : CharSet := combine (· || ·) s t

/-- The characters of some ranges, both ends included. -/
def ofRanges (ranges : List (Nat × Nat)) : CharSet :=
  ranges.foldr (fun r s => (between r.1 r.2).union s) empty

/-- The ranges that begin or end at the marks, which are in order; `begun` is where the range began
that has not ended yet. -/
def rangesFrom (holds : Nat → Bool) : (begun : Option Nat) → (marks : List Nat) → List (Nat × Nat)
  | none, [] => []
  | some first, [] => [(first, maxCode)]
  | none, m :: marks => rangesFrom holds (if holds m then some m else none) marks
  | some first, m :: marks =>
    if holds m then rangesFrom holds (some first) marks
    else (first, m - 1) :: rangesFrom holds none marks

/-- A list put in order. -/
def inOrder (marks : List Nat) : List Nat := marks.foldr (fun m marks => merge [m] marks) []

/-- The ranges of the set, in order and not adjoining. -/
def ranges (s : CharSet) : List (Nat × Nat) :=
  rangesFrom s.holds none (0 :: inOrder (s.marks.filter (· ≤ maxCode)))

end CharSet

namespace CodeSet

/-- The ends of the ranges. -/
def marks (s : CodeSet) : List Nat := s.ranges.toList.flatMap fun r => [r.1, r.2 + 1]

/-- No comparison of the search tells a code point from the next one if that is no mark. -/
theorem search_succ {s : CodeSet} {n : Nat} (h : n + 1 ∉ s.marks) (fuel lo hi : Nat) :
    search s.ranges (n + 1) fuel lo hi = search s.ranges n fuel lo hi := by
  induction fuel generalizing lo hi with
  | zero => rfl
  | succ fuel ih =>
    unfold search
    split
    · dsimp only
      split
      · rfl
      next first last hget =>
        have hmem : (first, last) ∈ s.ranges.toList := Array.mem_toList_iff.2
          (Array.mem_of_getElem? hget)
        have hmarks : n + 1 ≠ first ∧ n + 1 ≠ last + 1 := by
          constructor <;> rintro heq <;>
            exact h (List.mem_flatMap.2 ⟨_, hmem, by simp [heq]⟩)
        rw [ih, ih]
        have hfirst : n + 1 < first ↔ n < first := by omega
        have hlast : last < n + 1 ↔ last < n := by omega
        simp only [hfirst, hlast]
    · rfl

/-- The set of a table. -/
def toCharSet (s : CodeSet) : CharSet where
  marks := s.marks
  holds := s.contains
  steady _ h := search_succ h _ _ _

end CodeSet

end Extraction.Text
