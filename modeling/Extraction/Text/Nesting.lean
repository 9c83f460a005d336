import Extraction.Text.Basic

/-!
# Separators outside brackets and quotes

A separator counts only where no round or square bracket and no quote is open. A closing bracket
that nothing opened is passed over.

## Main definitions

* `Text.Nesting`: what is open at a place of a text
* `Text.splitOutside`, `Text.cutOutside`, `Text.cutLastOutside?`: the pieces between separators, what
  precedes the first one, and what stands on both sides of the last one
-/

namespace Extraction.Text

/-- How many brackets are open, and the quote that is. -/
structure Nesting where
  depth : Nat
  quote : Option Char
  deriving DecidableEq

namespace Nesting

/-- Nothing is open. -/
def outside : Nesting := ⟨0, none⟩

/-- What is open after a character. -/
def after (n : Nesting) (c : Char) : Nesting :=
  match n.quote with
  | some q => if c = q then ⟨n.depth, none⟩ else n
  | none =>
    if c = '\'' ∨ c = '"' then ⟨n.depth, some c⟩
    else if c = '[' ∨ c = '(' then ⟨n.depth + 1, none⟩
    else if c = ']' ∨ c = ')' then ⟨n.depth - 1, none⟩
    else n

end Nesting

/-- The text up to the first separator outside, and what follows, the separator included. -/
def cutOutside (sep : Char) (n : Nesting) : Text → Text × Text
  | [] => ([], [])
  | c :: rest =>
    if n = .outside ∧ c = sep then ([], c :: rest)
    else
      let (before, after) := cutOutside sep (n.after c) rest
      (c :: before, after)

theorem length_cutOutside (sep : Char) (n : Nesting) (s : Text) :
    (cutOutside sep n s).1.length + (cutOutside sep n s).2.length = s.length := by
  induction s generalizing n with
  | nil => rfl
  | cons c rest ih =>
    unfold cutOutside
    split
    · simp
    · have := ih (n.after c)
      simp only [List.length_cons]
      omega

/-- The pieces between separators outside. -/
def splitOutside (sep : Char) (s : Text) : List Text :=
  match _hcut : cutOutside sep .outside s with
  | (before, []) => [before]
  | (before, _ :: after) => before :: splitOutside sep after
termination_by s.length
decreasing_by
  have := length_cutOutside sep .outside s
  rw [_hcut] at this
  simp only [List.length_cons] at this
  omega

/-- What stands before and after the last separator outside. -/
def cutLastOutside? (sep : Char) (n : Nesting) : Text → Option (Text × Text)
  | [] => none
  | c :: rest =>
    match cutLastOutside? sep (n.after c) rest with
    | some (before, after) => some (c :: before, after)
    | none => if n = .outside ∧ c = sep then some ([], rest) else none

end Extraction.Text
