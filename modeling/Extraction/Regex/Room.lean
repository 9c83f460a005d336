import Extraction.Regex.Pattern
import Extraction.Text.ByteRanges

/-!
# The room of programs

A pattern is refused if a program for it would take too much room. What is measured are two programs
that read the bytes of a text, one forwards and one backwards, where the second one notes no groups.
A character takes a state for each of its bytes, and a set of characters an automaton over the
ranges of bytes that encode it.

The measure is an approximation in three respects: what alternatives have in common is counted for
each of them, a state with the edges of one that is there already is always found again, and the
loop that skips to a match is counted for every program.

## Main definitions

* `CharSet.room`: the room that a set of characters takes in a program
* `Pattern.room`: the room that a pattern takes in a program
* `Pattern.fits`: whether both programs are small enough
-/

namespace Extraction

namespace Regex

/-- The room of a state, in bytes. -/
def stateRoom : Nat := 32

/-- The room of an edge for a range of bytes. -/
def edgeRoom : Nat := 8

/-- The room of an edge that reads nothing. -/
def branchRoom : Nat := 4

/-- The room of a choice between two ways on. -/
def choiceRoom : Nat := stateRoom + 2 * branchRoom

/-- The most room that a program may take. -/
def maxRoom : Nat := 10 * 1024 * 1024

end Regex

namespace Text.CharSet

open Encoding Regex

/-- The room that a set of characters takes. A single character is a chain of states, and ASCII
characters are the edges of one state. Otherwise equal ends of sequences are shared forwards, and
equal beginnings backwards. -/
def room (backward : Bool) (s : CharSet) : Nat :=
  match s.ranges with
  | [] => stateRoom
  | [(first, last)] =>
    if first = last then stateRoom * (s.sequences.foldl (fun n q => n + q.length) 0)
    else several s
  | _ => several s
where
  /-- The room that a set of several characters takes. -/
  several (s : CharSet) : Nat :=
    if s.ranges.all fun r => r.2 < 0x80 then
      2 * stateRoom + edgeRoom * s.ranges.length
    else if backward then
      2 * stateRoom + branchRoom * s.sequences.length + stateRoom * prefixCount 4 s.sequences
    else
      let (_, states) := (internState 4 s.sequences).run []
      states.foldl (fun n edges => n + stateRoom + edgeRoom * edges.length) stateRoom

end Text.CharSet

namespace Regex.Pattern

/-- The room that a pattern takes in a program. The alternatives of alternatives are taken
together. -/
def room (backward : Bool) : Pattern → Nat
  | empty | look _ => stateRoom
  | set chars => chars.room backward
  | seq a b => a.room backward + b.room backward
  | alt a b =>
    let branch (p : Pattern) (room : Nat) := match p with
      | alt _ _ => room - 2 * stateRoom
      | _ => room + branchRoom
    2 * stateRoom + branch a (a.room backward) + branch b (b.room backward)
  | loop least most _ p =>
    let body := p.room backward
    match most with
    | none =>
      if 0 < least then least * body + choiceRoom
      else if 0 < p.minLength then body + choiceRoom
      else body + 2 * choiceRoom + stateRoom
    | some most =>
      if least = most then least * body
      else if most = 1 then body + choiceRoom + stateRoom
      else
        (if least = 0 then stateRoom else least * body) + (most - least) * (body + choiceRoom) +
          stateRoom
  | group _ p => p.room backward + if backward then 0 else 2 * stateRoom

/-- The room that every program takes besides its pattern: a loop that takes any byte, and the state
that accepts. -/
def frameRoom : Nat := choiceRoom + (2 * stateRoom + edgeRoom) + stateRoom

/-- Whether the programs for the pattern are small enough. -/
def fits (p : Pattern) : Bool :=
  [false, true].all fun backward => frameRoom + (group 0 p).room backward ≤ maxRoom

end Regex.Pattern

end Extraction
