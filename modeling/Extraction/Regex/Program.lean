import Extraction.Regex.Pattern

/-!
# Programs of patterns

A pattern is compiled into a program: an array of instructions that test a character or a place,
branch with a preference, or note a place. A program is built from its end, so that each
instruction knows what follows it; only a loop is entered before its body is there.
-/

namespace Extraction.Regex

/-- An instruction; the numbers are places in the program. -/
inductive Instruction where
  /-- Takes a character of the set. -/
  | take (holds : Nat → Bool) (next : Nat)
  /-- Goes on only where the condition holds. -/
  | check (condition : Look) (next : Nat)
  /-- Goes on at the first place, and, less preferred, at the second. -/
  | branch (preferred other : Nat)
  /-- Notes the place in the text. -/
  | save (slot : Nat) (next : Nat)
  /-- The pattern has matched. -/
  | accept

/-- A program with the place where it starts. -/
structure Program where
  code : Array Instruction
  start : Nat

namespace Program

/-- The program with one instruction in front. -/
def push (p : Program) (i : Instruction) : Program := ⟨p.code.push i, p.code.size⟩

/-- A branch that prefers `body` if it is greedy and `after` if it is lazy. -/
def choice (greedy : Bool) (body after : Nat) : Instruction :=
  if greedy then .branch body after else .branch after body

/-- The program after `n` rounds of a builder. -/
def rounds (build : Program → Program) : (n : Nat) → Program → Program
  | 0, p => p
  | n + 1, p => rounds build n (build p)

/-- At least one round of a body, then the program `p`. -/
def repeated (greedy : Bool) (build : Program → Program) (p : Program) : Program :=
  let slot := p.code.size
  let body := build ⟨p.code.push .accept, slot⟩
  ⟨body.code.setIfInBounds slot (choice greedy body.start p.start), body.start⟩

/-- At most `n` rounds of a body, each only after the one before it, then the place `after`. -/
def optional (greedy : Bool) (build : Program → Program) (after n : Nat) (p : Program) : Program :=
  rounds (fun p =>
    let body := build p
    body.push (choice greedy body.start after)) n p

/-- A program that matches the pattern and then goes on with `p`. A loop whose body may be empty is
an optional loop of at least one round, so that an empty round is not preferred to leaving. -/
def before : Pattern → Program → Program
  | .empty, p => p
  | .set chars, p => p.push (.take chars.holds p.start)
  | .look l, p => p.push (.check l p.start)
  | .seq a b, p => before a (before b p)
  | .alt a b, p =>
    let right := before b p
    let left := before a ⟨right.code, p.start⟩
    left.push (.branch left.start right.start)
  | .group n a, p =>
    let ended := p.push (.save (2 * n + 1) p.start)
    let body := before a ended
    body.push (.save (2 * n) body.start)
  | .loop least most greedy a, p =>
    match most with
    | some most =>
      rounds (before a) least (optional greedy (before a) p.start (most - least) p)
    | none =>
      match least with
      | 0 =>
        if 0 < a.minLength then
          let slot := p.code.size
          let body := before a ⟨p.code.push .accept, slot⟩
          ⟨body.code.setIfInBounds slot (choice greedy body.start p.start), slot⟩
        else
          let plus := repeated greedy (before a) p
          plus.push (choice greedy plus.start p.start)
      | least + 1 => rounds (before a) least (repeated greedy (before a) p)

/-- The program of a whole pattern, which notes its ends as group zero. -/
def ofPattern (p : Pattern) : Program := before (.group 0 p) ⟨#[.accept], 0⟩

end Program

end Extraction.Regex
