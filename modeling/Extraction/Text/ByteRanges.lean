import Extraction.Text.CharSet

/-!
# Characters as ranges of bytes

The encodings of the characters of a set, as sequences of byte ranges, and the sizes of automata
that read them.

## Main definitions

* `CharSet.sequences`: the sequences of byte ranges that encode a set of characters
* `Encoding.prefixCount`: the states of an automaton that shares equal beginnings
* `Encoding.internState`: the states of an automaton that shares equal ends
-/

namespace Extraction.Text

/-- A range of bytes, both ends included. -/
abbrev ByteRange := Nat × Nat

/-- The code points with encodings of one length: the first byte is `lead` and the highest bits, and
`count` bytes with six bits each follow. -/
structure Encoding where
  first : Nat
  last : Nat
  lead : Nat
  count : Nat
deriving DecidableEq

namespace Encoding

/-- The encodings of all characters. No character has a code point from 0xD800 to 0xDFFF. -/
def all : List Encoding :=
  [⟨0, 0x7F, 0, 0⟩, ⟨0x80, 0x7FF, 0xC0, 1⟩, ⟨0x800, 0xD7FF, 0xE0, 2⟩, ⟨0xE000, 0xFFFF, 0xE0, 2⟩,
    ⟨0x10000, 0x10FFFF, 0xF0, 3⟩]

/-- The sequences of byte ranges that encode the numbers from `a` to `b`. -/
def sequences : (lead count a b : Nat) → List (List ByteRange)
  | lead, 0, a, b => [[(lead + a, lead + b)]]
  | lead, count + 1, a, b =>
    let unit := Nat.pow 64 (count + 1)
    let after (byte a b : Nat) := (sequences 0x80 count a b).map ((lead + byte, lead + byte) :: ·)
    let first := a / unit
    let last := b / unit
    if first = last then after first (a % unit) (b % unit)
    else
      -- First bytes that every continuation follows are one range.
      let low := if a % unit = 0 then first else first + 1
      let high := if b % unit = unit - 1 then last + 1 else last
      (if first < low then after first (a % unit) (unit - 1) else []) ++
        (if low < high then
          [(lead + low, lead + high - 1) :: List.replicate (count + 1) (0x80, 0xBF)] else []) ++
        if high = last then after last 0 (b % unit) else []

/-- The sequences that encode the code points of a range. -/
def rangeSequences (first last : Nat) : List (List ByteRange) :=
  all.flatMap fun e =>
    if max first e.first ≤ min last e.last then
      sequences e.lead e.count (max first e.first) (min last e.last)
    else []

/-- Sequences by their first ranges, where those with one first range follow each other. -/
def byFirst : List (List ByteRange) → List (ByteRange × List (List ByteRange))
  | [] => []
  | [] :: rest => byFirst rest
  | (range :: s) :: rest =>
    match byFirst rest with
    | [] => [(range, [s])]
    | (other, tails) :: more =>
      if range = other then (range, s :: tails) :: more else (range, [s]) :: (other, tails) :: more

/-- How many beginnings of at most `length` ranges the sequences have. -/
def prefixCount : (length : Nat) → List (List ByteRange) → Nat
  | 0, _ => 0
  | length + 1, sequences =>
    (byFirst sequences).foldl (fun n (_, tails) => n + 1 + prefixCount length tails) 0

/-- The edges of a state, each with the number of the state that it leads to. -/
abbrev Edges := List (ByteRange × Nat)

/-- The number of the state that reads the sequences, of at most `length` ranges, among the states
numbered from one. Zero is the state after all of them. -/
def internState : (length : Nat) → List (List ByteRange) → StateM (List Edges) Nat
  | 0, _ => return 0
  | length + 1, sequences => do
    if sequences.all List.isEmpty then return 0
    let edges ← (byFirst sequences).mapM fun (range, tails) => do
      return (range, ← internState length tails)
    let states ← get
    match states.idxOf? edges with
    | some i => return i + 1
    | none =>
      set (states ++ [edges])
      return states.length + 1

end Encoding

/-- The sequences of byte ranges that encode the characters of the set. -/
def CharSet.sequences (s : CharSet) : List (List ByteRange) :=
  s.ranges.flatMap fun r => Encoding.rangeSequences r.1 r.2

end Extraction.Text
