import Extraction.Script.Regexp.Basic

/-!
# Matching regular expressions of scripts

A pattern is matched by trying its alternatives in order: each part of the pattern is given what
remains to be done after it, and goes back to its next possibility when that fails.

## Main definitions

* `Regexp.matchAt?`: the match at a position
* `Regexp.find?`: the first match from a position on
-/

namespace Extraction.Script

namespace Regexp

/-- How far a match has come: a position, and the ends of the groups. -/
structure Progress where
  pos : Nat
  groups : Array (Option (Nat × Nat))

/-- What remains to be done after a part of a pattern. -/
abbrev Rest := Progress → Option Progress

/-- What is matched, and how. -/
structure Subject where
  flags : Flags
  input : Utf16

namespace Subject

/-- The code after a position, or before it if matching goes back, and the position beyond it. -/
def step? (s : Subject) (forward : Bool) (pos : Nat) : Option (Nat × Nat) :=
  if forward then
    if s.flags.unicode then (s.input.codePointAt? pos).map fun (n, w) => (n, pos + w)
    else s.input[pos]?.map fun u => (u.toNat, pos + 1)
  else
    match pos with
    | 0 => none
    | p + 1 =>
      match s.input[p]? with
      | none => none
      | some u =>
        if s.flags.unicode && Utf16.isTrail u.toNat && 0 < p then
          match s.input[p - 1]? with
          | some v =>
            if Utf16.isLead v.toNat then some (Utf16.joinPair v.toNat u.toNat, p - 1)
            else some (u.toNat, p)
          | none => some (u.toNat, p)
        else some (u.toNat, p)

/-- Whether two codes count as the same. -/
def sameCode (s : Subject) (a b : Nat) : Bool :=
  a == b || (s.flags.ignoreCase && canonical s.flags.unicode a == canonical s.flags.unicode b)

/-- Whether the unit at a position belongs to a word. -/
def wordAt (s : Subject) (pos : Nat) : Bool :=
  match s.input[pos]? with
  | some u => isWordCode u.toNat
  | none => false

/-- Whether the unit at a position ends a line. -/
def lineEndAt (s : Subject) (pos : Nat) : Bool :=
  match s.input[pos]? with
  | some u => isLineEndCode u.toNat
  | none => false

/-- The test of a pattern that takes just one code. -/
def single? (s : Subject) : Node → Option (Nat → Bool)
  | .char n => some (s.sameCode n)
  | .any => some fun n => s.flags.dotAll || !isLineEndCode n
  | .set c => some (c.contains s.flags)
  | _ => none

/-- The positions reached by going on over codes that pass a test, last one first, at most so many
steps. -/
def run (s : Subject) (forward : Bool) (test : Nat → Bool) : (steps : Nat) → (pos : Nat) →
    (acc : List Nat) → List Nat
  | 0, pos, acc => pos :: acc
  | steps + 1, pos, acc =>
    match s.step? forward pos with
    | some (n, next) => if test n then run s forward test steps next (pos :: acc) else pos :: acc
    | none => pos :: acc

/-- The position after the text of a group is met again. -/
def meetAgain? (s : Subject) (forward : Bool) (pos : Nat) (group : Nat × Nat) : Option Nat :=
  let width := group.2 - group.1
  if forward then
    if (List.range width).all fun i =>
        match s.input[group.1 + i]?, s.input[pos + i]? with
        | some a, some b => s.sameCode a.toNat b.toNat
        | _, _ => false
    then some (pos + width) else none
  else if width ≤ pos &&
      ((List.range width).all fun i =>
        match s.input[group.1 + i]?, s.input[pos - width + i]? with
        | some a, some b => s.sameCode a.toNat b.toNat
        | _, _ => false)
    then some (pos - width) else none

end Subject

/-- The groups with those from `first` to `last` forgotten. -/
def forget (first last : Nat) (groups : Array (Option (Nat × Nat))) : Array (Option (Nat × Nat)) :=
  if last < first then groups
  else groups.mapIdx fun i g => if first ≤ i + 1 && i + 1 ≤ last then none else g

/-- The turns of a repetition beyond `turns` that are still possible. A turn that takes nothing
ends the repetition, unless it is one of the least number. -/
def turn (body : Rest → Rest) (clear : Progress → Progress) (least : Nat) (most : Option Nat)
    (greedy : Bool) (rest : Rest) : (fuel : Nat) → (turns : Nat) → Rest
  | 0, _, _ => none
  | fuel + 1, turns, p =>
    if most.any (fun m => m ≤ turns) then rest p
    else
      let again (_ : Unit) : Option Progress := body (fun q =>
        if least ≤ turns && q.pos == p.pos then none
        else turn body clear least most greedy rest fuel (turns + 1) q) (clear p)
      if turns < least then again ()
      else if greedy then again () <|> rest p
      else rest p <|> again ()

/-- Matches a pattern, and then what remains. -/
def run (s : Subject) : Node → (forward : Bool) → Rest → Rest
  | .empty, _, rest, p => rest p
  | .char n, forward, rest, p =>
    match s.step? forward p.pos with
    | some (m, pos) => if s.sameCode n m then rest ⟨pos, p.groups⟩ else none
    | none => none
  | .any, forward, rest, p =>
    match s.step? forward p.pos with
    | some (m, pos) =>
      if s.flags.dotAll || !isLineEndCode m then rest ⟨pos, p.groups⟩ else none
    | none => none
  | .set c, forward, rest, p =>
    match s.step? forward p.pos with
    | some (m, pos) => if c.contains s.flags m then rest ⟨pos, p.groups⟩ else none
    | none => none
  | .lineStart, _, rest, p =>
    if p.pos == 0 || (s.flags.multiline && s.lineEndAt (p.pos - 1)) then rest p else none
  | .lineEnd, _, rest, p =>
    if p.pos == s.input.size || (s.flags.multiline && s.lineEndAt p.pos) then rest p else none
  | .boundary negated, _, rest, p =>
    let before := p.pos != 0 && s.wordAt (p.pos - 1)
    if (before != s.wordAt p.pos) != negated then rest p else none
  | .group index body, forward, rest, p =>
    run s body forward (fun q =>
      let span := if forward then (p.pos, q.pos) else (q.pos, p.pos)
      rest ⟨q.pos, q.groups.set! (index - 1) (some span)⟩) p
  | .backReference indices, forward, rest, p =>
    match indices.findSome? fun i => (p.groups[i - 1]?).join with
    | none => rest p
    | some span =>
      match s.meetAgain? forward p.pos span with
      | some pos => rest ⟨pos, p.groups⟩
      | none => none
  | .look ahead negated body, _, rest, p =>
    match run s body ahead some p with
    | some q => if negated then none else rest ⟨p.pos, q.groups⟩
    | none => if negated then rest p else none
  | .seq a b, forward, rest, p =>
    if forward then run s a forward (fun q => run s b forward rest q) p
    else run s b forward (fun q => run s a forward rest q) p
  | .alt a b, forward, rest, p => run s a forward rest p <|> run s b forward rest p
  | .repeated least most greedy firstGroup lastGroup body, forward, rest, p =>
    match s.single? body with
    | some test =>
      -- one code a turn: the positions that can be reached are known beforehand
      let reached := s.run forward test (most.getD s.input.size) p.pos []
      let usable := reached.take (reached.length - least)
      (if greedy then usable else usable.reverse).findSome? fun pos => rest ⟨pos, p.groups⟩
    | none =>
      turn (fun rest q => run s body forward rest q)
        (fun q => ⟨q.pos, forget firstGroup lastGroup q.groups⟩) least most greedy rest
        (s.input.size + least + 2) 0 p

/-- A match: where it begins and ends, and the ends of its groups. -/
structure Found where
  first : Nat
  last : Nat
  groups : Array (Option (Nat × Nat))

/-- The match at a position. -/
def matchAt? (r : Regexp) (input : Utf16) (pos : Nat) : Option Found :=
  (run ⟨r.flags, input⟩ r.node true some ⟨pos, Array.replicate r.groups none⟩).map fun p =>
    ⟨pos, p.pos, p.groups⟩

/-- The first match among `fuel` positions. -/
def findAmong? (r : Regexp) (input : Utf16) : (fuel pos : Nat) → Option Found
  | 0, _ => none
  | fuel + 1, pos =>
    match matchAt? r input pos with
    | some found => some found
    | none => findAmong? r input fuel (pos + 1)

/-- The first match from a position on. -/
def find? (r : Regexp) (input : Utf16) (pos : Nat) : Option Found :=
  findAmong? r input (input.size + 1 - pos) pos

end Regexp

end Extraction.Script
