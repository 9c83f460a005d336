import Extraction.Regex.Parser
import Extraction.Regex.Search

/-!
# Regular expressions

A regular expression, compiled once and then searched for in texts.

## Main definitions

* `Regex.compile?`: the regular expression that a text writes
* `Regex.find?`: its leftmost match in a text
* `Regex.findAll`: its matches in a text that do not overlap
* `Regex.replaceFirst`, `Regex.replaceAll`: a text with matches replaced
-/

namespace Extraction

/-- A compiled regular expression. -/
structure Regex where
  source : Text
  program : Regex.Program
  /-- How many groups it has, the whole match among them. -/
  groupCount : Nat
  names : List (Text × Nat)

/-- One match: its place and length in the text it was found in, and the texts of the groups that
took part. -/
structure Match where
  start : Nat
  length : Nat
  groups : List (Option Text)
  names : List (Text × Nat)

namespace Match

/-- What a group matched, if it took part. -/
def group? (m : Match) (n : Nat) : Option Text := (m.groups[n]?).join

/-- What a group matched, empty if it took no part. -/
def group (m : Match) (n : Nat) : Text := (m.group? n).getD []

/-- What the group of a name matched, empty if it took no part. -/
def namedGroup (m : Match) (name : Text) : Text := ((m.names.lookup name).map m.group).getD []

/-- The place after the match. -/
def stop (m : Match) : Nat := m.start + m.length

end Match

namespace Regex

/-- The regular expression that a text writes. -/
def compile? (source : Text) : Option Regex :=
  (parse? source).map fun (p, names) =>
    { source, program := Program.ofPattern p, groupCount := p.lastGroup + 1, names }

/-- A match from the places it noted; `s` is the text from `origin` on. -/
def matchOf (r : Regex) (origin : Nat) (s : Text) (slots : Slots) : Option Match :=
  (slots.span? 0).map fun (a, b) =>
    { start := a
      length := b - a
      groups := (List.range r.groupCount).map fun n =>
        (slots.span? n).map fun (x, y) => (s.drop (x - origin)).take (y - x)
      names := r.names }

/-- The leftmost match in `s`, the text from `origin` on, `previous` being the character before. -/
def findFrom? (r : Regex) (previous : Option Char) (origin : Nat) (s : Text) : Option Match :=
  (search? r.program previous origin s).bind (r.matchOf origin s)

/-- The leftmost match in a text. -/
def find? (r : Regex) (s : Text) : Option Match := r.findFrom? none 0 s

/-- The matches in `s`, the text from `origin` on, where no match ends before `origin` but one may
end there (`after`). An empty match at the end of the one before it is passed over. -/
def matchesFrom (r : Regex) : (fuel : Nat) → (previous : Option Char) → (origin : Nat) →
    (after : Bool) → Text → List Match
  | 0, _, _, _, _ => []
  | fuel + 1, previous, origin, after, s =>
    match r.findFrom? previous origin s with
    | none => []
    | some m =>
      if m.length = 0 && after && m.start = origin then
        match s with
        | [] => []
        | c :: cs => matchesFrom r fuel (some c) (origin + 1) false cs
      else
        let read := m.stop - origin
        let previous := if read = 0 then previous else s[read - 1]?
        m :: matchesFrom r fuel previous m.stop true (s.drop read)

/-- The matches in a text, each the leftmost after the one before it. -/
def findAll (r : Regex) (s : Text) : List Match :=
  r.matchesFrom (2 * s.length + 2) none 0 false s

/-- The text with each match replaced by what a function makes of it; `origin` is the place of the
text's first character. -/
def splice (replacement : Match → Text) (origin : Nat) : List Match → Text → Text
  | [], s => s
  | m :: rest, s =>
    s.take (m.start - origin) ++ replacement m ++
      splice replacement m.stop rest (s.drop (m.stop - origin))

/-- The text with every match replaced. -/
def replaceAll (r : Regex) (replacement : Match → Text) (s : Text) : Text :=
  splice replacement 0 (r.findAll s) s

/-- The text with the first match replaced. -/
def replaceFirst (r : Regex) (replacement : Match → Text) (s : Text) : Text :=
  splice replacement 0 (r.find? s).toList s

end Regex

end Extraction
