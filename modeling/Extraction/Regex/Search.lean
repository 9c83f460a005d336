import Extraction.Regex.Program
import Extraction.Text.Properties

/-!
# Searching

All ways to match run side by side, one character at a time, in the order of preference; a way that
reaches an instruction where a preferred way stands is dropped. So a search takes time in
proportion to the text, and the leftmost match that is preferred most is found.
-/

namespace Extraction.Regex

/-- The places noted by a match: entries `2 n` and `2 n + 1` are the ends of group `n`. -/
abbrev Slots := List (Nat × Nat)

/-- The place last noted under a slot. -/
def Slots.place? (s : Slots) (slot : Nat) : Option Nat := s.lookup slot

/-- The ends of what a group matched. -/
def Slots.span? (s : Slots) (group : Nat) : Option (Nat × Nat) :=
  match s.place? (2 * group), s.place? (2 * group + 1) with
  | some a, some b => some (a, b)
  | _, _ => none

/-- Whether a character is a word character, of ASCII or at all. -/
def isWordChar (ascii : Bool) (c : Char) : Bool :=
  if ascii then c.isAlphanum || c == '_' else Text.isWordCode c.toNat

/-- Whether a condition holds between two characters. -/
def Look.holds (l : Look) (previous next : Option Char) : Bool :=
  let word (ascii : Bool) (c : Option Char) : Bool := (c.map (isWordChar ascii)).getD false
  match l with
  | .textStart => previous.isNone
  | .textEnd => next.isNone
  | .lineStart false => previous.isNone || previous == some '\n'
  | .lineStart true =>
    previous.isNone || previous == some '\n' || (previous == some '\r' && next != some '\n')
  | .lineEnd false => next.isNone || next == some '\n'
  | .lineEnd true =>
    next.isNone || next == some '\r' || (next == some '\n' && previous != some '\r')
  | .wordBoundary ascii => word ascii previous != word ascii next
  | .notWordBoundary ascii => word ascii previous == word ascii next
  | .wordStart ascii => !word ascii previous && word ascii next
  | .wordEnd ascii => word ascii previous && !word ascii next
  | .wordStartHalf ascii => !word ascii previous
  | .wordEndHalf ascii => !word ascii next

/-- A way to match: the instruction it stands at and the places it noted. -/
structure Thread where
  at_ : Nat
  slots : Slots

/-- The ways that stand at one place of the text, most preferred last, with the instructions that
have been reached. -/
structure Front where
  reached : Array Bool
  threads : List Thread := []

/-- The front with the ways that lead on from an instruction without taking a character. -/
def Front.add (code : Array Instruction) (previous next : Option Char) (place : Nat) :
    (fuel : Nat) → Nat → Slots → Front → Front
  | 0, _, _, f => f
  | fuel + 1, i, slots, f =>
    if f.reached[i]?.getD true then f
    else
      let f := { f with reached := f.reached.setIfInBounds i true }
      match code[i]? with
      | some (.branch a b) =>
        add code previous next place fuel b slots (add code previous next place fuel a slots f)
      | some (.check l n) =>
        if l.holds previous next then add code previous next place fuel n slots f else f
      | some (.save slot n) => add code previous next place fuel n ((slot, place) :: slots) f
      | some (.take _ _) | some .accept => { f with threads := ⟨i, slots⟩ :: f.threads }
      | none => f

/-- One character for all ways of a front, most preferred first: the ways on after it, and the
places noted by the most preferred way that has matched, with which the less preferred end. -/
def advance (code : Array Instruction) (c next : Option Char) (place : Nat) :
    List Thread → Front → Front × Option Slots
  | [], f => (f, none)
  | t :: rest, f =>
    match code[t.at_]? with
    | some .accept => (f, some t.slots)
    | some (.take holds n) =>
      match c with
      | some x =>
        if holds x.toNat then
          advance code c next place rest
            (f.add code (some x) next place (code.size + 1) n t.slots)
        else advance code c next place rest f
      | none => advance code c next place rest f
    | _ => advance code c next place rest f

/-- A front that nothing has reached. -/
def Front.fresh (code : Array Instruction) : Front := ⟨Array.replicate code.size false, []⟩

/-- What a search carries from character to character: the character before, the place, the ways
under way and what the preferred way of those that have ended noted. -/
structure Search where
  previous : Option Char
  place : Nat
  front : Front
  found : Option Slots := none

/-- The search after one more character, or after the end of the text. A new way starts at each
place until one has ended. -/
def Search.step (p : Program) (s : Search) (c next : Option Char) : Search :=
  let front :=
    if s.found.isNone then
      s.front.add p.code s.previous c s.place (p.code.size + 1) p.start []
    else s.front
  let (after, ended) :=
    advance p.code c next (s.place + 1) front.threads.reverse (Front.fresh p.code)
  { previous := c, place := s.place + 1, front := after, found := ended <|> s.found }

/-- The match that a search ends with. -/
def Search.run (p : Program) (s : Search) : Text → Option Slots
  | [] => (s.step p none none).found
  | c :: cs =>
    let s := s.step p (some c) cs.head?
    if s.found.isSome && s.front.threads.isEmpty then s.found else run p s cs

/-- The leftmost match that starts where the given characters begin. -/
def search? (p : Program) (previous : Option Char) (place : Nat) (s : Text) : Option Slots :=
  Search.run p { previous, place, front := Front.fresh p.code } s

end Extraction.Regex
