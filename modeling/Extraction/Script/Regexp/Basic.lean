import Extraction.Script.Number
import Extraction.Text.CaseFold
import Extraction.Text.CaseMap
import Extraction.Text.Properties

/-!
# Regular expressions of scripts

The patterns that scripts match strings with. They work on units, or on code points under the flag
`u`, and unlike the expressions of rules they can look around and refer back to groups.

## Main definitions

* `Regexp.Node`: patterns
* `Regexp.CharClass`: sets of units or code points
* `Regexp.Flags`: how a pattern is to be read and used
* `Regexp`: a pattern with its flags and groups
-/

namespace Extraction.Script

namespace Regexp

/-- A part of a set of characters. -/
inductive ClassItem where
  | range (low high : Nat)
  | digit (negated : Bool)
  | word (negated : Bool)
  | space (negated : Bool)
  | property (negated : Bool) (test : Nat → Bool)

/-- A set of characters. -/
structure CharClass where
  negated : Bool
  items : List ClassItem

/-- A pattern. -/
inductive Node where
  | empty
  | char (n : Nat)
  | any
  | set (c : CharClass)
  | lineStart
  | lineEnd
  | boundary (negated : Bool)
  | group (index : Nat) (body : Node)
  | backReference (indices : List Nat)
  | look (ahead negated : Bool) (body : Node)
  | seq (first second : Node)
  | alt (first second : Node)
  /-- A repetition; the groups in the body, from `firstGroup` up to `lastGroup`, are forgotten at the
  start of every turn. -/
  | repeated (least : Nat) (most : Option Nat) (greedy : Bool) (firstGroup lastGroup : Nat)
      (body : Node)

/-- How a pattern is to be read and used. -/
structure Flags where
  indices : Bool
  global : Bool
  ignoreCase : Bool
  multiline : Bool
  dotAll : Bool
  unicode : Bool
  sticky : Bool

/-- The flags of letters, each at most once. -/
def Flags.ofLetters? (s : Utf16) : Option Flags :=
  let letters := s.toList.map fun u => Char.ofNat u.toNat
  let has (c : Char) : Bool := letters.contains c
  if letters.all (fun c => "dgimsuy".toList.contains c) && letters.eraseDups.length == letters.length
  then some ⟨has 'd', has 'g', has 'i', has 'm', has 's', has 'u', has 'y'⟩
  else none

/-- Whether a code is a digit. -/
def isDigitCode (n : Nat) : Bool := 48 ≤ n && n ≤ 57

/-- Whether a code belongs to a word. -/
def isWordCode (n : Nat) : Bool :=
  isDigitCode n || (65 ≤ n && n ≤ 90) || (97 ≤ n && n ≤ 122) || n == 95

/-- Whether a code ends a line. -/
def isLineEndCode (n : Nat) : Bool := n == 10 || n == 13 || n == 0x2028 || n == 0x2029

/-- What a code is compared as when case does not count. -/
def canonical (unicode : Bool) (n : Nat) : Nat :=
  if 0xD800 ≤ n && n < 0xE000 then n
  else if unicode then
    match Text.foldCase [Char.ofNat n] with
    | [c] => c.toNat
    | _ => n
  else
    match Text.toUpper [Char.ofNat n] with
    | [c] => if (128 ≤ n && c.toNat < 128) || 0xFFFF < c.toNat then n else c.toNat
    | _ => n

namespace ClassItem

/-- Whether a code is in a part of a set. -/
def contains (i : ClassItem) (n : Nat) : Bool :=
  match i with
  | range low high => low ≤ n && n ≤ high
  | digit negated => isDigitCode n != negated
  | word negated => isWordCode n != negated
  | space negated => Number.isSpaceCode n != negated
  | property negated test => test n != negated

end ClassItem

namespace CharClass

/-- Whether a code is in a set. If case does not count, any variant of the code will do. -/
def contains (flags : Flags) (c : CharClass) (n : Nat) : Bool :=
  let among (m : Nat) : Bool := c.items.any (·.contains m)
  let found :=
    if flags.ignoreCase then
      let key := canonical flags.unicode n
      among n || ((Text.caseVariants n).any fun m => canonical flags.unicode m == key && among m)
    else among n
  found != c.negated

end CharClass

end Regexp

/-- A pattern with its flags, the number of its groups and the names of some of them. -/
structure Regexp where
  flags : Regexp.Flags
  node : Regexp.Node
  groups : Nat
  names : List (Utf16 × Nat)

end Extraction.Script
