import Extraction.Text.CharSet

/-!
# Patterns

The syntax trees of regular expressions. Of the ways in which a pattern can match at a place, the
preferred one counts: the left branch of an alternation before the right one, one more round of a
greedy loop before leaving it, and leaving a lazy loop before one more round.
-/

namespace Extraction.Regex

/-- A condition on a place in the text that takes no character. -/
inductive Look where
  | textStart
  | textEnd
  | lineStart (carriageReturns : Bool)
  | lineEnd (carriageReturns : Bool)
  | wordBoundary (ascii : Bool)
  | notWordBoundary (ascii : Bool)
  | wordStart (ascii : Bool)
  | wordEnd (ascii : Bool)
  | wordStartHalf (ascii : Bool)
  | wordEndHalf (ascii : Bool)

/-- A regular expression. -/
inductive Pattern where
  /-- Matches the empty text. -/
  | empty
  /-- Matches one character of a set. -/
  | set (chars : Text.CharSet)
  | look (condition : Look)
  | seq (first second : Pattern)
  | alt (left right : Pattern)
  /-- At least `min` and, if there is a `max`, at most `max` rounds. -/
  | loop (min : Nat) (max : Option Nat) (greedy : Bool) (body : Pattern)
  /-- Remembers what the body matched under a number. -/
  | group (number : Nat) (body : Pattern)

namespace Pattern

/-- The length of the shortest text that the pattern may match. -/
def minLength : Pattern → Nat
  | empty | look _ => 0
  | set _ => 1
  | seq a b => a.minLength + b.minLength
  | alt a b => min a.minLength b.minLength
  | loop least _ _ p => least * p.minLength
  | group _ p => p.minLength

/-- Whether the pattern can match the empty text alone. -/
def emptyOnly : Pattern → Bool
  | empty | look _ => true
  | set _ => false
  | seq a b => a.emptyOnly && b.emptyOnly
  | alt a b => a.emptyOnly && b.emptyOnly
  | loop _ most _ p => p.emptyOnly || most == some 0
  | group _ p => p.emptyOnly

/-- A loop in its plainest form: a loop without rounds is empty, one round is its body, and a body
without characters is not taken twice. -/
def loopOf (least : Nat) (most : Option Nat) (greedy : Bool) (p : Pattern) : Pattern :=
  let (least, most) :=
    if p.emptyOnly then (min least 1, some ((most.map (min · 1)).getD 1)) else (least, most)
  if most = some 0 then empty
  else if least = 1 && most == some 1 then p
  else loop least most greedy p

/-- The set of a pattern that matches one character of it. -/
def chars? : Pattern → Option Text.CharSet
  | set chars => some chars
  | _ => none

/-- A sequence in its plainest form, without parts that are empty. -/
def seqOf (parts : List Pattern) : Pattern :=
  match (parts.filter fun p => !p matches empty).reverse with
  | [] => empty
  | last :: before => before.foldl (fun rest p => seq p rest) last

/-- An alternation in its plainest form: sets alone are one set. -/
def altOf (branches : List Pattern) : Pattern :=
  match branches.mapM chars?, branches.reverse with
  | _, [] => empty
  | some sets, _ => set (sets.foldr Text.CharSet.union .empty)
  | none, last :: before => before.foldl (fun rest p => alt p rest) last

/-- The largest number of a group in the pattern. -/
def lastGroup : Pattern → Nat
  | empty | look _ | set _ => 0
  | seq a b | alt a b => max a.lastGroup b.lastGroup
  | loop _ _ _ p => p.lastGroup
  | group n p => max n p.lastGroup

end Pattern

end Extraction.Regex
