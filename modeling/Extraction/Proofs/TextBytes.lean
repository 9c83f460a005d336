import Extraction.Text.Utf8
import Mathlib.Data.List.Basic
import Mathlib.Tactic.SplitIfs

/-!
# Bytes of texts

The bytes of a text hold all of it: reading them gives the text back, and nothing in it is replaced.

## Main statements

* `Utf8.decode_encodeChar_append`: a character is read from its bytes, whatever follows them
* `Utf8.decode_encode`: a text is read from its bytes
-/

namespace Extraction.Utf8

variable {c : Char} {s : Text}

/-! ### Characters -/

theorem toNat_ofNat_of_ascii {n : Nat} (hn : n < 128) : (Char.ofNat n).toNat = n := by
  have hvalid : n.isValidChar := .inl (by omega)
  rw [Char.ofNat, dif_pos hvalid]
  rfl

/-- A character is no surrogate, and not beyond the last one. -/
theorem toNat_bounds (c : Char) :
    c.toNat < 0xD800 ∨ (0xDFFF < c.toNat ∧ c.toNat < 0x110000) := c.valid

theorem lt_of_mem_encodeChar {b : Nat} (hb : b ∈ encodeChar c) : b < 256 := by
  have hbounds := toNat_bounds c
  unfold encodeChar at hb
  dsimp only at hb
  split_ifs at hb <;> simp only [List.mem_cons, List.not_mem_nil, or_false] at hb <;> omega

/-- The first of two bytes holds five bits, and at least two, as one byte would do for less. -/
theorem lead?_two {k : Nat} (hleast : 2 ≤ k) (hk : k < 32) :
    lead? (0xC0 + k) = some (1, 0x80, 0xBF, k) := by
  rw [lead?, if_neg (by omega), if_neg (by omega), if_pos (by omega), Nat.add_sub_cancel_left]

/-- The first of three bytes holds four bits. The byte after it rules out what two bytes can hold,
and the surrogates. -/
theorem lead?_three : ∀ k < 16, lead? (0xE0 + k) =
    some (2, if k = 0 then 0xA0 else 0x80, if k = 0xD then 0x9F else 0xBF, k) := by decide

/-- The first of four bytes holds three bits. The byte after it rules out what three bytes can hold,
and what lies beyond the last character. -/
theorem lead?_four : ∀ k < 5, lead? (0xF0 + k) =
    some (3, if k = 0 then 0x90 else 0x80, if k = 4 then 0x8F else 0xBF, k) := by decide

/-- A byte within the bounds adds its six bits. -/
theorem finish_cons {need low high bits d : Nat} (hlow : low ≤ 0x80 + d) (hhigh : 0x80 + d ≤ high)
    (rest : List Nat) : finish (need + 1) low high bits ((0x80 + d) :: rest) =
      finish need 0x80 0xBF (bits * 64 + d) rest := by
  rw [finish, if_pos ⟨hlow, hhigh⟩, Nat.add_sub_cancel_left]

theorem finish_zero {low high bits : Nat} (hbits : bits = c.toNat) (rest : List Nat) :
    finish 0 low high bits rest = (c, rest) := by
  rw [finish, hbits, Char.ofNat_toNat]

/-- A character is read from its bytes, whatever follows them. -/
theorem decode_encodeChar_append (c : Char) (rest : List Nat) :
    decode (encodeChar c ++ rest) = c :: decode rest := by
  have hread {b : Nat} {bs : List Nat} (hfirst : first b (bs ++ rest) = (c, rest)) :
      decode (b :: bs ++ rest) = c :: decode rest := by
    rw [List.cons_append, decode, hfirst]
  have hbounds := toNat_bounds c
  unfold encodeChar
  dsimp only
  -- A character of more than one byte is too large for fewer, and it is no surrogate: so the second
  -- byte is within the bounds that the first one sets.
  split_ifs with hone htwo hthree <;> apply hread <;> unfold first
  · rw [lead?, if_pos hone]
    exact finish_zero rfl rest
  · rw [lead?_two (by omega) (by omega)]
    dsimp only [List.cons_append, List.nil_append]
    rw [finish_cons (by omega) (by omega)]
    exact finish_zero (by omega) rest
  · rw [lead?_three (c.toNat / 4096) (by omega)]
    dsimp only [List.cons_append, List.nil_append]
    rw [finish_cons (by split_ifs <;> omega) (by split_ifs <;> omega),
      finish_cons (by omega) (by omega)]
    exact finish_zero (by omega) rest
  · rw [lead?_four (c.toNat / 262144) (by omega)]
    dsimp only [List.cons_append, List.nil_append]
    rw [finish_cons (by split_ifs <;> omega) (by split_ifs <;> omega),
      finish_cons (by omega) (by omega), finish_cons (by omega) (by omega)]
    exact finish_zero (by omega) rest

/-! ### Texts -/

/-- A text is read from its bytes. -/
theorem decode_encode (s : Text) : decode (encode s) = s := by
  induction s with
  | nil => rw [encode, List.flatMap_nil, decode]
  | cons c s ih =>
    rw [encode, List.flatMap_cons, decode_encodeChar_append]
    exact congrArg (c :: ·) ih

theorem lt_of_mem_encode {b : Nat} (hb : b ∈ encode s) : b < 256 := by
  obtain ⟨c, -, hb⟩ := List.mem_flatMap.1 hb
  exact lt_of_mem_encodeChar hb

theorem encode_of_ascii (h : ∀ c ∈ s, c.toNat < 128) : encode s = s.map Char.toNat := by
  rw [encode, List.map_eq_flatMap]
  refine List.flatMap_congr fun c hc => ?_
  rw [encodeChar]
  exact if_pos (h c hc)

/-- Bytes below 128 are those of the characters with these numbers. -/
theorem encode_map_ofNat {bs : List Nat} (h : ∀ b ∈ bs, b < 128) :
    encode (bs.map Char.ofNat) = bs := by
  have hnumber : ∀ b ∈ bs, (Char.ofNat b).toNat = b := fun b hb => toNat_ofNat_of_ascii (h b hb)
  rw [encode_of_ascii, List.map_map]
  · exact (List.map_congr_left hnumber).trans (List.map_id bs)
  · intro c hc
    obtain ⟨b, hb, rfl⟩ := List.mem_map.1 hc
    rw [hnumber b hb]
    exact h b hb

theorem decode_of_ascii (h : ∀ c ∈ s, c.toNat < 128) : decode (s.map Char.toNat) = s := by
  rw [← encode_of_ascii h, decode_encode]

end Extraction.Utf8
