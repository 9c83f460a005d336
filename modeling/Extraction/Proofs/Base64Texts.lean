import Extraction.Proofs.TextBytes
import Extraction.Proofs.TextFacts
import Extraction.Script.Host
import Mathlib.Algebra.Group.Nat.Defs

/-!
# Base64 forms of texts

The base64 form of a text holds all of it: whatever the text is, and whatever blanks stand around
the form, decoding gives the text back.

## Main definitions

* `Base64.bits`: the bits of a number
* `Base64.Spells`: the numbers of the symbols, and the length of the filling, that stand for bytes

## Main statements

* `Base64.exists_spells`: what is written for bytes
* `Base64.decode_encode`: bytes are read from their symbols
* `Host.base64Decode_base64Encode`: a text is read from its base64 form with blanks around it
-/

namespace Extraction

namespace Base64

variable {bs vs rest : List Nat} {offset index filling a b c v w x y z : Nat}

/-! ### Symbols -/

theorem value?_symbol : ∀ v < 64, value? (symbol v) = some v := by decide

/-- Every symbol is a visible ASCII character. -/
theorem symbol_bounds : ∀ v < 64, 0x20 < symbol v ∧ symbol v < 0x80 := by decide

theorem symbol_ne_pad : ∀ v < 64, symbol v ≠ pad := by decide

theorem valueAt_symbol (hv : v < 64) : valueAt offset (symbol v) = .ok v := by
  rw [valueAt, value?_symbol v hv]

/-! ### Bits -/

/-- The last `count` bits of a number, the one of least weight at the end. -/
def bits : (count : Nat) → Nat → List Nat
  | 0, _ => []
  | count + 1, n => bits count (n / 2) ++ [n % 2]

theorem length_bits (count n : Nat) : (bits count n).length = count := by
  induction count generalizing n with
  | zero => rfl
  | succ count ih => rw [bits, List.length_append, ih, List.length_singleton]

theorem length_flatMap_bits (count : Nat) (ns : List Nat) :
    (ns.flatMap (bits count)).length = ns.length * count := by
  simp [List.length_flatMap, length_bits]

/-- The bits of a number are those of a quotient and those of the remainder. -/
theorem bits_add (more count n : Nat) :
    bits (more + count) n = bits more (n / 2 ^ count) ++ bits count (n % 2 ^ count) := by
  induction count generalizing n with
  | zero => rw [Nat.add_zero, Nat.pow_zero, Nat.div_one, bits, List.append_nil]
  | succ count ih =>
    have hquotient : n / 2 / 2 ^ count = n / 2 ^ (count + 1) := by
      rw [Nat.div_div_eq_div_mul, Nat.pow_succ']
    have hremainder : n / 2 % 2 ^ count = n % 2 ^ (count + 1) / 2 := by
      rw [Nat.pow_succ', Nat.mod_mul_right_div_self]
    have hlast : n % 2 ^ (count + 1) % 2 = n % 2 :=
      Nat.mod_mod_of_dvd n ⟨2 ^ count, Nat.pow_succ'⟩
    rw [← Nat.add_assoc, bits, ih, hquotient, hremainder, List.append_assoc, bits, hlast]

/-- The bits of a number with zeros behind it. -/
theorem bits_mul (more count n : Nat) :
    bits (more + count) (n * 2 ^ count) = bits more n ++ List.replicate count 0 := by
  have hzero : bits count 0 = List.replicate count 0 := by
    induction count with
    | zero => rfl
    | succ count ih => rw [bits, ih, List.replicate_succ']
  rw [bits_add, Nat.mul_div_cancel _ (Nat.two_pow_pos count), Nat.mul_mod_left, hzero]

/-- A number made of the end of one number and the front of the next has the bits of both, with the
rest of the next behind it. -/
theorem bits_straddle (more front back m : Nat) {n : Nat} (hn : n < 2 ^ front * 2 ^ back)
    (rest : List Nat) :
    bits (more + front) (m * 2 ^ front + n / 2 ^ back) ++ (bits back (n % 2 ^ back) ++ rest) =
      bits more m ++ (bits (front + back) n ++ rest) := by
  have hfront : n / 2 ^ back < 2 ^ front := Nat.div_lt_of_lt_mul (Nat.mul_comm .. ▸ hn)
  have hquotient : (m * 2 ^ front + n / 2 ^ back) / 2 ^ front = m := by
    rw [Nat.add_comm, Nat.add_mul_div_right _ _ (Nat.two_pow_pos front),
      Nat.div_eq_of_lt hfront, Nat.zero_add]
  have hremainder : (m * 2 ^ front + n / 2 ^ back) % 2 ^ front = n / 2 ^ back := by
    rw [Nat.mul_add_mod_self_right, Nat.mod_eq_of_lt hfront]
  rw [bits_add more front, hquotient, hremainder, bits_add front back]
  simp only [List.append_assoc]

theorem bits_first (a : Nat) : bits 8 a = bits 6 (a / 4) ++ bits 2 (a % 4) := bits_add 6 2 a

theorem bits_second (a : Nat) (hb : b < 256) (rest : List Nat) :
    bits 6 (a % 4 * 16 + b / 16) ++ (bits 4 (b % 16) ++ rest) =
      bits 2 (a % 4) ++ (bits 8 b ++ rest) :=
  bits_straddle 2 4 4 (a % 4) hb rest

theorem bits_third (b : Nat) (hc : c < 256) (rest : List Nat) :
    bits 6 (b % 16 * 4 + c / 64) ++ (bits 6 (c % 64) ++ rest) =
      bits 4 (b % 16) ++ (bits 8 c ++ rest) :=
  bits_straddle 4 2 6 (b % 16) hc rest

/-! ### What is written -/

/-- Numbers below 64 and a filling stand for bytes: the bits of the numbers are those of the bytes,
in their order, and two zero bits for each symbol of filling, of which there are two at most. -/
structure Spells (bs vs : List Nat) (filling : Nat) : Prop where
  lt : ∀ v ∈ vs, v < 64
  bits_eq : vs.flatMap (bits 6) = bs.flatMap (bits 8) ++ List.replicate (2 * filling) 0
  filling_lt : filling < 3

namespace Spells

/-- The symbols and the filling make up groups of four. -/
theorem length_mod (h : Spells bs vs filling) : (vs.length + filling) % 4 = 0 := by
  have hlength := congrArg List.length h.bits_eq
  rw [List.length_append, length_flatMap_bits, length_flatMap_bits,
    List.length_replicate] at hlength
  have := h.filling_lt
  omega

theorem nil : Spells [] [] 0 where
  lt := List.forall_mem_nil _
  bits_eq := rfl
  filling_lt := by decide

theorem one (ha : a < 256) : Spells [a] [a / 4, a % 4 * 16] 2 where
  lt := by
    simp only [List.forall_mem_cons, List.not_mem_nil, false_implies, implies_true, and_true]
    omega
  bits_eq := by
    have hlast : bits 6 (a % 4 * 16) = bits 2 (a % 4) ++ List.replicate 4 0 := bits_mul 2 4 (a % 4)
    simp only [List.flatMap_cons, List.flatMap_nil, List.append_nil, bits_first a, hlast,
      List.append_assoc]
  filling_lt := by decide

theorem two (ha : a < 256) (hb : b < 256) :
    Spells [a, b] [a / 4, a % 4 * 16 + b / 16, b % 16 * 4] 1 where
  lt := by
    simp only [List.forall_mem_cons, List.not_mem_nil, false_implies, implies_true, and_true]
    omega
  bits_eq := by
    have hlast : bits 6 (b % 16 * 4) = bits 4 (b % 16) ++ List.replicate 2 0 :=
      bits_mul 4 2 (b % 16)
    simp only [List.flatMap_cons, List.flatMap_nil, List.append_nil, bits_first a, hlast,
      List.append_assoc, bits_second a hb]
  filling_lt := by decide

theorem cons (ha : a < 256) (hb : b < 256) (hc : c < 256) (h : Spells bs vs filling) :
    Spells (a :: b :: c :: bs)
      (a / 4 :: (a % 4 * 16 + b / 16) :: (b % 16 * 4 + c / 64) :: c % 64 :: vs) filling where
  lt := by
    simp only [List.forall_mem_cons]
    exact ⟨by omega, by omega, by omega, by omega, h.lt⟩
  bits_eq := by
    simp only [List.flatMap_cons, h.bits_eq, bits_first a, List.append_assoc, bits_third b hc,
      bits_second a hb]
  filling_lt := h.filling_lt

end Spells

/-- What is written for bytes. -/
theorem exists_spells (h : ∀ b ∈ bs, b < 256) : ∃ vs filling, Spells bs vs filling ∧
    encode bs = vs.map symbol ++ List.replicate filling pad := by
  fun_induction encode bs with
  | case1 => exact ⟨[], 0, .nil, rfl⟩
  | case2 a => exact ⟨_, _, .one (h a List.mem_cons_self), rfl⟩
  | case3 a b =>
    simp only [List.forall_mem_cons] at h
    exact ⟨_, _, .two h.1 h.2.1, rfl⟩
  | case4 a b c rest ih =>
    simp only [List.forall_mem_cons] at h
    obtain ⟨ha, hb, hc, hrest⟩ := h
    obtain ⟨vs, filling, hspells, hencode⟩ := ih hrest
    exact ⟨_, filling, .cons ha hb hc hspells, by rw [hencode]; rfl⟩

theorem length_encode_mod (h : ∀ b ∈ bs, b < 256) : (encode bs).length % 4 = 0 := by
  obtain ⟨vs, filling, hspells, hencode⟩ := exists_spells h
  rw [hencode, List.length_append, List.length_map, List.length_replicate]
  exact hspells.length_mod

/-- What is written for bytes are visible ASCII characters. -/
theorem bounds_of_mem_encode (h : ∀ b ∈ bs, b < 256) :
    ∀ b ∈ encode bs, 0x20 < b ∧ b < 0x80 := by
  obtain ⟨vs, filling, hspells, hencode⟩ := exists_spells h
  rw [hencode, List.forall_mem_append, List.forall_mem_map]
  refine ⟨fun v hv => symbol_bounds v (hspells.lt v hv), fun b hb => ?_⟩
  rw [List.eq_of_mem_replicate hb]
  decide

/-! ### What is read -/

/-- The last group is read up to its filling, which is preceded by two symbols at least. -/
theorem lastValues_symbols (hbs : bs = vs.map symbol ++ List.replicate filling pad)
    (hvs : ∀ v ∈ vs, v < 64) (hfilling : 2 ≤ index + vs.length ∨ filling = 0) :
    lastValues offset index bs = .ok (vs, filling) := by
  subst hbs
  induction vs generalizing offset index with
  | nil =>
    cases filling with
    | zero => rfl
    | succ filling =>
      -- Too few symbols before the filling would be an error, and so would a symbol after it.
      have hindex : 2 ≤ index := hfilling.resolve_right (Nat.succ_ne_zero filling)
      have hrest : (List.replicate filling pad).any (· != pad) = false := by simp
      rw [List.map_nil, List.nil_append, List.replicate_succ, lastValues, if_pos rfl, hrest,
        if_neg (not_or.2 ⟨Nat.not_lt.2 hindex, Bool.false_ne_true⟩), List.length_replicate]
  | cons v vs ih =>
    obtain ⟨hv, hvs⟩ := List.forall_mem_cons.1 hvs
    rw [List.length_cons, ← Nat.add_assoc, Nat.add_right_comm] at hfilling
    rw [List.map_cons, List.cons_append, lastValues, if_neg (symbol_ne_pad v hv),
      valueAt_symbol hv, ih hvs hfilling]
    rfl

theorem groups_four : groups offset [w, x, y, z] = lastGroup offset [w, x, y, z] := rfl

section Group

variable (hw : w < 64) (hx : x < 64) (hy : y < 64) (hz : z < 64)

include hw hx

/-- Two symbols before the filling are read as one byte; the four bits left over are zero. -/
theorem lastGroup_one (hzero : x % 16 = 0) :
    lastGroup offset [symbol w, symbol x, pad, pad] = .ok [w * 4 + x / 16] := by
  have hlt : ∀ v ∈ [w, x], v < 64 := by simp [hw, hx]
  have hvalues : lastValues offset 0 [symbol w, symbol x, pad, pad] = .ok ([w, x], 2) :=
    lastValues_symbols rfl hlt (.inl (Nat.le_refl 2))
  rw [lastGroup, hvalues]
  simp [bind, Except.bind, pure, Except.pure, hzero]

include hy

/-- Three symbols before the filling are read as two bytes; the two bits left over are zero. -/
theorem lastGroup_two (hzero : y % 4 = 0) :
    lastGroup offset [symbol w, symbol x, symbol y, pad] =
      .ok [w * 4 + x / 16, x % 16 * 16 + y / 4] := by
  have hlt : ∀ v ∈ [w, x, y], v < 64 := by simp [hw, hx, hy]
  have hvalues : lastValues offset 0 [symbol w, symbol x, symbol y, pad] = .ok ([w, x, y], 1) :=
    lastValues_symbols rfl hlt (.inl (Nat.le_succ 2))
  rw [lastGroup, hvalues]
  simp [bind, Except.bind, pure, Except.pure, hzero]

include hz

/-- Four symbols at the end are read as three bytes. -/
theorem lastGroup_three :
    lastGroup offset [symbol w, symbol x, symbol y, symbol z] =
      .ok [w * 4 + x / 16, x % 16 * 16 + y / 4, y % 4 * 64 + z] := by
  have hlt : ∀ v ∈ [w, x, y, z], v < 64 := by simp [hw, hx, hy, hz]
  have hvalues : lastValues offset 0 [symbol w, symbol x, symbol y, symbol z] =
      .ok ([w, x, y, z], 0) :=
    lastValues_symbols rfl hlt (.inr rfl)
  rw [lastGroup, hvalues]
  simp [bind, Except.bind, pure, Except.pure]

/-- A full group is read apart from the groups that follow it. -/
theorem groups_append (hrest : groups (offset + 4) rest = .ok bs) :
    groups offset (symbol w :: symbol x :: symbol y :: symbol z :: rest) =
      .ok ([w * 4 + x / 16, x % 16 * 16 + y / 4, y % 4 * 64 + z] ++ bs) := by
  cases rest with
  | nil =>
    obtain rfl : [] = bs := Except.ok.inj hrest
    rw [groups_four, lastGroup_three hw hx hy hz, List.append_nil]
  | cons b rest =>
    rw [groups, group, valueAt_symbol hw, valueAt_symbol hx, valueAt_symbol hy, valueAt_symbol hz,
      hrest]
    rfl

end Group

/-- The groups that are written for bytes are read as these bytes. -/
theorem groups_encode (h : ∀ b ∈ bs, b < 256) (offset : Nat) :
    groups offset (encode bs) = .ok bs := by
  -- Every group of three bytes moves the offset on, so the induction is for all offsets.
  fun_induction encode bs generalizing offset with
  | case1 => rfl
  | case2 a =>
    have ha := h a List.mem_cons_self
    have hfirst : a / 4 * 4 + a % 4 * 16 / 16 = a := by omega
    rw [groups_four, lastGroup_one (by omega) (by omega) (by omega), hfirst]
  | case3 a b =>
    simp only [List.forall_mem_cons] at h
    obtain ⟨ha, hb, -⟩ := h
    have hfirst : a / 4 * 4 + (a % 4 * 16 + b / 16) / 16 = a := by omega
    have hsecond : (a % 4 * 16 + b / 16) % 16 * 16 + b % 16 * 4 / 4 = b := by omega
    rw [groups_four, lastGroup_two (by omega) (by omega) (by omega) (by omega), hfirst, hsecond]
  | case4 a b c rest ih =>
    simp only [List.forall_mem_cons] at h
    obtain ⟨ha, hb, hc, hrest⟩ := h
    have hfirst : a / 4 * 4 + (a % 4 * 16 + b / 16) / 16 = a := by omega
    have hsecond : (a % 4 * 16 + b / 16) % 16 * 16 + (b % 16 * 4 + c / 64) / 4 = b := by omega
    have hthird : (b % 16 * 4 + c / 64) % 4 * 64 + c % 64 = c := by omega
    rw [groups_append (by omega) (by omega) (by omega) (by omega) (ih hrest (offset + 4)),
      hfirst, hsecond, hthird]
    rfl

/-- Bytes are read from their symbols. -/
theorem decode_encode (h : ∀ b ∈ bs, b < 256) : decode (encode bs) = .ok bs := by
  unfold decode
  split
  · have hlength : ¬ (encode bs).length % 4 = 1 := by
      rw [length_encode_mod h]
      decide
    rw [if_neg fun hone => hlength hone.1, groups_encode h]
  · next hlast =>
    rw [← groups_encode h 0, List.getLast?_eq_none_iff.1 hlast]
    rfl

end Base64

namespace Host

/-! ### Texts -/

variable {s before after : Text}

theorem bounds_of_mem_bytes : ∀ b ∈ Base64.encode (Utf8.encode s), 0x20 < b ∧ b < 0x80 :=
  Base64.bounds_of_mem_encode fun _ hb => Utf8.lt_of_mem_encode hb

/-- The bytes of a base64 form are the symbols in it. -/
theorem encode_base64Encode (s : Text) :
    Utf8.encode (base64Encode s) = Base64.encode (Utf8.encode s) :=
  Utf8.encode_map_ofNat fun b hb => (bounds_of_mem_bytes b hb).2

/-- A base64 form holds no blanks. -/
theorem isBlank_of_mem_base64Encode : ∀ c ∈ base64Encode s, Text.isBlank c = false := by
  intro c hc
  obtain ⟨b, hb, rfl⟩ := List.mem_map.1 hc
  have hbounds := bounds_of_mem_bytes b hb
  simp only [Text.isBlank, Utf8.toNat_ofNat_of_ascii hbounds.2, Bool.or_eq_false_iff,
    Bool.and_eq_false_iff, decide_eq_false_iff_not, beq_eq_false_iff_ne]
  omega

/-- The blanks around a base64 form are trimmed away, and nothing of the form. -/
theorem trim_base64Encode (hbefore : Text.AllBlank before) (hafter : Text.AllBlank after) :
    Text.trim (before ++ base64Encode s ++ after) = base64Encode s := by
  have hblank := isBlank_of_mem_base64Encode (s := s)
  rw [Text.trim_append_of_allBlank hafter, Text.trim_allBlank_append hbefore]
  exact Text.trim_eq_self (fun c hc => hblank c (List.mem_of_mem_head? hc))
    fun c hc => hblank c (List.mem_of_mem_getLast? hc)

/-- A text is read from its base64 form, whatever blanks stand around that. -/
theorem base64Decode_base64Encode (s : Text) (hbefore : Text.AllBlank before)
    (hafter : Text.AllBlank after) :
    base64Decode (before ++ base64Encode s ++ after) = .ok s := by
  rw [base64Decode, trim_base64Encode hbefore hafter, encode_base64Encode,
    Base64.decode_encode fun b hb => Utf8.lt_of_mem_encode hb]
  exact congrArg Except.ok (Utf8.decode_encode s)

/-- Characters of three, two and four bytes, the last group filled up, between an ideographic space
and a line end. -/
theorem base64Decode_base64Encode_filled :
    let before := "\u3000".toList
    let after := "\r\n".toList
    let s := "源é😀x".toList
    Text.AllBlank before ∧ Text.AllBlank after ∧ base64Encode s = "5rqQw6nwn5iAeA==".toList ∧
      base64Decode (before ++ base64Encode s ++ after) = .ok s := by
  intro before after s
  have hbefore : Text.AllBlank before := by unfold Text.AllBlank; decide
  have hafter : Text.AllBlank after := by unfold Text.AllBlank; decide
  have hform : base64Encode s = "5rqQw6nwn5iAeA==".toList := by decide
  exact ⟨hbefore, hafter, hform, base64Decode_base64Encode s hbefore hafter⟩

end Host

end Extraction
