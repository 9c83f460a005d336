import Extraction.Text.Basic

/-!
# UTF-8

A text as bytes and back. Bytes are natural numbers below 256. Reading is lenient: where the bytes
hold no character, the longest start of a character that stands there, or else the one byte, is
read as U+FFFD.

## Main definitions

* `Utf8.encode`: the bytes of a text
* `Utf8.decode`: the text that bytes hold
-/

namespace Extraction.Utf8

/-- The bytes of one character. -/
def encodeChar (c : Char) : List Nat :=
  let n := c.toNat
  if n < 0x80 then [n]
  else if n < 0x800 then [0xC0 + n / 64, 0x80 + n % 64]
  else if n < 0x10000 then [0xE0 + n / 4096, 0x80 + n / 64 % 64, 0x80 + n % 64]
  else [0xF0 + n / 262144, 0x80 + n / 4096 % 64, 0x80 + n / 64 % 64, 0x80 + n % 64]

/-- The bytes of a text. -/
def encode (s : Text) : List Nat := s.flatMap encodeChar

/-- The number of bytes of a text. -/
def length (s : Text) : Nat := (encode s).length

/-- What stands for bytes that hold no character. -/
def replacement : Char := Char.ofNat 0xFFFD

/-- What a first byte says of its character: how many bytes follow, the least and the greatest
value of the next one, and the bits it holds itself. -/
def lead? (b : Nat) : Option (Nat × Nat × Nat × Nat) :=
  if b < 0x80 then some (0, 0x80, 0xBF, b)
  else if b < 0xC2 then none
  else if b < 0xE0 then some (1, 0x80, 0xBF, b - 0xC0)
  else if b = 0xE0 then some (2, 0xA0, 0xBF, 0)
  else if b = 0xED then some (2, 0x80, 0x9F, 0xD)
  else if b < 0xF0 then some (2, 0x80, 0xBF, b - 0xE0)
  else if b = 0xF0 then some (3, 0x90, 0xBF, 0)
  else if b < 0xF4 then some (3, 0x80, 0xBF, b - 0xF0)
  else if b = 0xF4 then some (3, 0x80, 0x8F, 4)
  else none

/-- The character whose bits so far are `bits`, of which `need` more bytes are owed, the next of
them between `low` and `high`; and the bytes after it. -/
def finish : (need low high bits : Nat) → List Nat → Char × List Nat
  | 0, _, _, bits, rest => (Char.ofNat bits, rest)
  | _ + 1, _, _, _, [] => (replacement, [])
  | need + 1, low, high, bits, b :: rest =>
    if low ≤ b ∧ b ≤ high then finish need 0x80 0xBF (bits * 64 + (b - 0x80)) rest
    else (replacement, b :: rest)

theorem length_finish_le (need low high bits : Nat) (bs : List Nat) :
    (finish need low high bits bs).2.length ≤ bs.length := by
  fun_induction finish need low high bits bs with
  | case1 => exact Nat.le_refl _
  | case2 => exact Nat.le_refl _
  | case3 need low high bits b rest h ih =>
    simp only [List.length_cons]
    omega
  | case4 => exact Nat.le_refl _

/-- The character at the start of the bytes that begin with `b`, and the bytes after it. -/
def first (b : Nat) (bs : List Nat) : Char × List Nat :=
  match lead? b with
  | some (need, low, high, bits) => finish need low high bits bs
  | none => (replacement, bs)

theorem length_first_le (b : Nat) (bs : List Nat) : (first b bs).2.length ≤ bs.length := by
  unfold first
  split
  · exact length_finish_le ..
  · exact Nat.le_refl _

/-- The text that bytes hold. -/
def decode : List Nat → Text
  | [] => []
  | b :: bs => (first b bs).1 :: decode (first b bs).2
termination_by bs => bs.length
decreasing_by
  have := length_first_le b bs
  simp only [List.length_cons]
  omega

end Extraction.Utf8
