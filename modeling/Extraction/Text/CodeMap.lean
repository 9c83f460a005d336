import Std.Data.HashMap
import Extraction.Text.CodeSet

/-!
# Maps of code points

A map takes some code points to texts, written as lists of code points. Its table lists entries
`point:texts`; an entry `first-last:target` stands for a run of points that go to the run that
starts at the target, and `/2` after the run for every second point of it.
-/

namespace Extraction.Text

/-- A map of some code points to lists of code points. -/
structure CodeMap where
  index : Std.HashMap Nat (List Nat)

namespace CodeMap

/-- The image of a code point that the map names. -/
def get? (m : CodeMap) (n : Nat) : Option (List Nat) := m.index[n]?

/-- The pairs that one entry of a table stands for. -/
def readEntry (entry : Text) : List (Nat × List Nat) :=
  match splitOnce? [':'] entry with
  | none => []
  | some (points, image) =>
    let image := (splitOn [','] image).map CodeSet.hex
    let (points, step) := match splitOnce? ['/'] points with
      | some (points, _) => (points, 2)
      | none => (points, 1)
    match splitOnce? ['-'] points, image with
    | some (first, last), [target] =>
      let first := CodeSet.hex first
      (List.range ((CodeSet.hex last - first) / step + 1)).map fun i =>
        (first + step * i, [target + step * i])
    | _, image => [(CodeSet.hex points, image)]

/-- The map that a table writes. -/
def ofHex (table : String) : CodeMap :=
  ⟨(words table.toList).foldl
    (fun m entry => (readEntry entry).foldl (fun m (n, image) => m.insert n image) m) ∅⟩

/-- The image of a text, where characters that the map does not name go to themselves. -/
def apply (m : CodeMap) (s : Text) : Text :=
  s.flatMap fun c =>
    match m.get? c.toNat with
    | some image => image.map Char.ofNat
    | none => [c]

end CodeMap

end Extraction.Text
