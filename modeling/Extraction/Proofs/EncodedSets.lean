import Extraction.Text.ByteRanges
import Extraction.Text.Utf8
import Mathlib.Data.List.Sort

/-!
# Sets of characters as bytes

The ranges of a set hold its characters and no others, and the sequences of byte ranges made of them
are passed by the encodings of its characters and by those of no others. So the automaton that is
measured for a set is one that reads the set.

## Main definitions

* `CharSet.Covers`: ranges hold a code point
* `Encoding.Passes`: bytes lie in the ranges of a sequence, one by one

## Main statements

* `CharSet.covers_ranges_iff`: what the ranges of a set hold
* `CharSet.exists_passes_iff`: what the sequences of a set let pass
-/

namespace Extraction.Text

namespace CharSet

/-! ### Ranges -/

/-- One of the ranges holds a code point. -/
def Covers (ranges : List (Nat × Nat)) (n : Nat) : Prop := ∃ r ∈ ranges, r.1 ≤ n ∧ n ≤ r.2

theorem covers_cons {r : Nat × Nat} {ranges : List (Nat × Nat)} {n : Nat} :
    Covers (r :: ranges) n ↔ (r.1 ≤ n ∧ n ≤ r.2) ∨ Covers ranges n := by
  simp only [Covers, List.mem_cons, exists_eq_or_imp]

theorem mem_inOrder {n : Nat} {marks : List Nat} : n ∈ inOrder marks ↔ n ∈ marks := by
  unfold inOrder
  induction marks with
  | nil => rfl
  | cons m marks ih => rw [List.foldr_cons, mem_merge, List.mem_singleton, ih, List.mem_cons]

theorem pairwise_inOrder (marks : List Nat) : (inOrder marks).Pairwise (· ≤ ·) := by
  unfold inOrder
  induction marks with
  | nil => exact .nil
  | cons m marks ih =>
    rw [List.foldr_cons, merge_eq]
    exact (List.pairwise_singleton _ m).merge ih

section Scan

variable {holds : Nat → Bool} {marks : List Nat} {lo : Nat}

/-- The predicate changes only at the marks, from a place on and up to the last character. -/
def SteadyFrom (holds : Nat → Bool) (marks : List Nat) (lo : Nat) : Prop :=
  ∀ n, lo ≤ n → n < maxCode → n + 1 ∉ marks → holds (n + 1) = holds n

/-- Before the first mark nothing changes. -/
theorem SteadyFrom.eq_of_le (h : SteadyFrom holds marks lo) {n : Nat} (hlo : lo ≤ n)
    (hn : n ≤ maxCode) (hmarks : ∀ m ∈ marks, n < m) : holds n = holds lo := by
  induction n, hlo using Nat.le_induction with
  | base => rfl
  | succ n hlo ih =>
    rw [h n hlo hn fun hmem => Nat.lt_irrefl _ (hmarks _ hmem)]
    exact ih (by omega) fun m hm => Nat.lt_of_succ_lt (hmarks m hm)

/-- Past a mark, the others are those that count. -/
theorem SteadyFrom.of_cons {m : Nat} (h : SteadyFrom holds (m :: marks) lo) (hlo : lo ≤ m) :
    SteadyFrom holds marks m :=
  fun n hm hn hmem => h n (by omega) hn (List.not_mem_cons_of_ne_of_not_mem (by omega) hmem)

/-- A range that has not begun begins at a mark. -/
theorem le_of_mem_rangesFrom {r : Nat × Nat} {begun : Option Nat}
    (h : r ∈ rangesFrom holds begun marks) (hbegun : lo ≤ begun.getD lo)
    (hmarks : ∀ m ∈ marks, lo ≤ m) : lo ≤ r.1 := by
  fun_induction rangesFrom holds begun marks with
  | case1 => cases h
  | case2 first =>
    rw [List.mem_singleton.1 h]
    exact hbegun
  | case3 m marks ih =>
    rw [List.forall_mem_cons] at hmarks
    refine ih h ?_ hmarks.2
    split
    · exact hmarks.1
    · exact le_rfl
  | case4 first m marks hm ih =>
    exact ih h hbegun fun m' hm' => hmarks m' (List.mem_cons_of_mem m hm')
  | case5 first m marks hm ih =>
    rcases List.mem_cons.1 h with rfl | h
    · exact hbegun
    · exact ih h le_rfl fun m' hm' => hmarks m' (List.mem_cons_of_mem m hm')

/-- What the scan knows at `lo`: whether it is in the set, and if so, since where all is. -/
structure IsBegun (holds : Nat → Bool) (lo : Nat) (begun : Option Nat) : Prop where
  outside : begun = none → holds lo = false
  inside : ∀ first ∈ begun, first ≤ lo ∧ ∀ n, first ≤ n → n ≤ lo → holds n = true

theorem isBegun_mark (holds : Nat → Bool) (m : Nat) :
    IsBegun holds m (if holds m then some m else none) := by
  split
  · next htrue =>
    refine ⟨fun h => (nomatch h), fun first h => ?_⟩
    cases h
    exact ⟨le_rfl, fun n hn hn' => le_antisymm hn' hn ▸ htrue⟩
  · next hfalse => exact ⟨fun _ => Bool.eq_false_iff.2 hfalse, fun first h => nomatch h⟩

/-- Before the first mark, a range that has not begun does not begin. -/
theorem IsBegun.eq_false (h : IsBegun holds lo none) (hsteady : SteadyFrom holds marks lo) {n : Nat}
    (hlo : lo ≤ n) (hn : n ≤ maxCode) (hmarks : ∀ m ∈ marks, n < m) : holds n = false := by
  rw [hsteady.eq_of_le hlo hn hmarks]
  exact h.outside rfl

/-- Before the first mark, a range that has begun goes on. -/
theorem IsBegun.eq_true {first n : Nat} (h : IsBegun holds lo (some first))
    (hsteady : SteadyFrom holds marks lo) (hfirst : first ≤ n) (hn : n ≤ maxCode)
    (hmarks : ∀ m ∈ marks, n < m) : holds n = true := by
  obtain ⟨hle, hall⟩ := h.inside first rfl
  rcases Nat.le_total n lo with hlo | hlo
  · exact hall n hfirst hlo
  · rw [hsteady.eq_of_le hlo hn hmarks]
    exact hall lo hle le_rfl

/-- From where its range has begun, or from `lo` on, the scan finds the set. -/
theorem covers_rangesFrom {begun : Option Nat} (hsorted : marks.Pairwise (· ≤ ·))
    (hmarks : ∀ m ∈ marks, lo ≤ m ∧ m ≤ maxCode) (hsteady : SteadyFrom holds marks lo)
    (hbegun : IsBegun holds lo begun) {n : Nat} (hn : begun.getD lo ≤ n) (hmax : n ≤ maxCode) :
    Covers (rangesFrom holds begun marks) n ↔ holds n = true := by
  induction marks generalizing begun lo with
  | nil =>
    have hnomark : ∀ m ∈ ([] : List Nat), n < m := fun m hm => nomatch hm
    cases begun with
    | none =>
      rw [hbegun.eq_false hsteady hn hmax hnomark]
      exact iff_of_false (fun ⟨r, hr, _⟩ => nomatch hr) Bool.false_ne_true
    | some first =>
      exact iff_of_true ⟨_, List.mem_singleton_self _, hn, hmax⟩
        (hbegun.eq_true hsteady hn hmax hnomark)
  | cons m marks ih =>
    rw [List.forall_mem_cons] at hmarks
    obtain ⟨⟨hlo, hm⟩, hrest⟩ := hmarks
    obtain ⟨hle, hsorted⟩ := List.pairwise_cons.1 hsorted
    have hbefore {k : Nat} (hkm : k < m) : ∀ m' ∈ m :: marks, k < m' :=
      List.forall_mem_cons.2 ⟨hkm, fun m' h => Nat.lt_of_lt_of_le hkm (hle m' h)⟩
    -- From the mark on, the scan goes on with what is known there.
    have hafter {begun : Option Nat} (hbegun : IsBegun holds m begun) (hn : begun.getD m ≤ n) :
        Covers (rangesFrom holds begun marks) n ↔ holds n = true :=
      ih hsorted (fun m' h => ⟨hle m' h, (hrest m' h).2⟩) (hsteady.of_cons hlo) hbegun hn
    cases begun with
    | none =>
      rw [rangesFrom]
      rcases Nat.lt_or_ge n m with hnm | hnm
      · rw [hbegun.eq_false hsteady hn hmax (hbefore hnm)]
        refine iff_of_false (fun ⟨r, hr, hfirst, _⟩ => ?_) Bool.false_ne_true
        have hmr : m ≤ r.1 := le_of_mem_rangesFrom hr (by split <;> exact le_rfl) hle
        omega
      · refine hafter (isBegun_mark holds m) ?_
        split <;> exact hnm
    | some first =>
      obtain ⟨hfirst, hall⟩ := hbegun.inside first rfl
      have hreach {k : Nat} (hk : first ≤ k) (hkm : k < m) : holds k = true :=
        hbegun.eq_true hsteady hk (by omega) (hbefore hkm)
      rw [rangesFrom]
      split
      · next htrue =>
        refine hafter ⟨fun h => (nomatch h), fun first' h => ?_⟩ hn
        cases h
        refine ⟨by omega, fun k hk hkm => ?_⟩
        rcases Nat.lt_or_eq_of_le hkm with hkm | rfl
        · exact hreach hk hkm
        · exact htrue
      · next hfalse =>
        have hlt : lo < m := lt_of_le_of_ne hlo fun h => hfalse (h ▸ hall lo hfirst le_rfl)
        rw [covers_cons]
        rcases Nat.lt_or_ge n m with hnm | hnm
        · exact iff_of_true (.inl ⟨hn, by omega⟩) (hreach hn hnm)
        · have htail : Covers (rangesFrom holds none marks) n ↔ holds n = true :=
            hafter ⟨fun _ => Bool.eq_false_iff.2 hfalse, fun first h => nomatch h⟩ hnm
          rw [htail]
          exact or_iff_right fun h => by omega

end Scan

/-- The ranges of a set hold its characters and no others. -/
theorem covers_ranges_iff (s : CharSet) {n : Nat} (hn : n ≤ maxCode) :
    Covers s.ranges n ↔ s.holds n = true := by
  have hmem {m : Nat} : m ∈ inOrder (s.marks.filter (· ≤ maxCode)) ↔ m ∈ s.marks ∧ m ≤ maxCode := by
    rw [mem_inOrder, List.mem_filter, decide_eq_true_eq]
  rw [ranges, rangesFrom]
  refine covers_rangesFrom (pairwise_inOrder _) (fun m hm => ⟨Nat.zero_le m, (hmem.1 hm).2⟩)
    (fun k _ hk hmark => s.steady k fun h => hmark (hmem.2 ⟨h, hk⟩)) (isBegun_mark _ 0) ?_ hn
  split <;> exact Nat.zero_le n

end CharSet

namespace Encoding

/-! ### Bytes -/

/-- The bytes that encode a number: the first one with the highest bits, and `count` with six bits
each. -/
def bytes : (lead count n : Nat) → List Nat
  | lead, 0, n => [lead + n]
  | lead, count + 1, n =>
    (lead + n / Nat.pow 64 (count + 1)) :: bytes 0x80 count (n % Nat.pow 64 (count + 1))

/-- The bytes lie in the ranges of the sequence, one by one. -/
def Passes (sequence : List ByteRange) (bytes : List Nat) : Prop :=
  List.Forall₂ (fun range byte => range.1 ≤ byte ∧ byte ≤ range.2) sequence bytes

section Sequences

variable {lead count n a b : Nat}

theorem length_bytes (lead count n : Nat) : (bytes lead count n).length = count + 1 := by
  induction count generalizing lead n with
  | zero => rfl
  | succ count ih => rw [bytes, List.length_cons, ih]

theorem passes_cons {range : ByteRange} {sequence : List ByteRange} {byte : Nat}
    {bytes : List Nat} : Passes (range :: sequence) (byte :: bytes) ↔
      (range.1 ≤ byte ∧ byte ≤ range.2) ∧ Passes sequence bytes := List.forall₂_cons

/-- A byte with six bits is one of those that continue a character. -/
theorem passes_replicate (hn : n < Nat.pow 64 (count + 1)) :
    Passes (List.replicate (count + 1) (0x80, 0xBF)) (bytes 0x80 count n) := by
  induction count generalizing n with
  | zero =>
    have hn : n < 64 := hn
    exact passes_cons.2 ⟨⟨Nat.le_add_right _ _, by omega⟩, .nil⟩
  | succ count ih =>
    rw [List.replicate_succ, bytes, passes_cons]
    have hpos : 0 < Nat.pow 64 (count + 1) := Nat.pow_pos (by decide)
    refine ⟨⟨Nat.le_add_right _ _, ?_⟩, ih (Nat.mod_lt _ hpos)⟩
    have hdiv : n / Nat.pow 64 (count + 1) < 64 := Nat.div_lt_of_lt_mul hn
    omega

/-- The order of numbers is that of their highest digits and then that of the rest. -/
theorem le_iff_div_mod (unit : Nat) : a ≤ n ↔
    a / unit < n / unit ∨ (a / unit = n / unit ∧ a % unit ≤ n % unit) := by
  have ha : unit * (a / unit) + a % unit = a := Nat.div_add_mod a unit
  have hn : unit * (n / unit) + n % unit = n := Nat.div_add_mod n unit
  constructor
  · intro h
    rcases Nat.lt_or_eq_of_le (Nat.div_le_div_right h : a / unit ≤ n / unit) with hlt | heq
    · exact .inl hlt
    · rw [heq] at ha
      exact .inr ⟨heq, by omega⟩
  · rintro (hlt | ⟨heq, hle⟩)
    · exact Nat.le_of_lt (Nat.lt_of_div_lt_div hlt)
    · rw [heq] at ha
      omega

theorem exists_passes_append {u v : List (List ByteRange)} {bs : List Nat} :
    (∃ s ∈ u ++ v, Passes s bs) ↔ (∃ s ∈ u, Passes s bs) ∨ ∃ s ∈ v, Passes s bs := by
  simp only [List.mem_append, or_and_right, exists_or]

theorem exists_passes_if {p : Prop} [Decidable p] {u : List (List ByteRange)} {bs : List Nat} :
    (∃ s ∈ if p then u else [], Passes s bs) ↔ p ∧ ∃ s ∈ u, Passes s bs := by
  simp only [List.mem_ite_nil_right, and_assoc, exists_and_left]

/-- A number has bytes that pass one of the sequences for a range just when it is in the range. -/
theorem exists_passes_sequences_iff (lead : Nat) (hab : a ≤ b) :
    (∃ s ∈ sequences lead count a b, Passes s (bytes lead count n)) ↔ a ≤ n ∧ n ≤ b := by
  induction count generalizing lead n a b with
  | zero =>
    rw [sequences, bytes]
    simp [Passes]
  | succ count ih =>
    obtain ⟨unit, hunit⟩ : ∃ unit, Nat.pow 64 (count + 1) = unit := ⟨_, rfl⟩
    have hpos : 0 < unit := hunit ▸ Nat.pow_pos (by decide)
    have ha : a % unit < unit := Nat.mod_lt a hpos
    have hb : b % unit < unit := Nat.mod_lt b hpos
    have hn : n % unit < unit := Nat.mod_lt n hpos
    have hbytes : bytes lead (count + 1) n = (lead + n / unit) :: bytes 0x80 count (n % unit) := by
      rw [bytes, hunit]
    -- The sequences with one first byte, and the one with those that every continuation follows.
    have hafter (byte : Nat) {a' b' : Nat} (h : a' ≤ b') :
        (∃ s ∈ (sequences 0x80 count a' b').map ((lead + byte, lead + byte) :: ·),
          Passes s (bytes lead (count + 1) n)) ↔
        n / unit = byte ∧ a' ≤ n % unit ∧ n % unit ≤ b' := by
      have hbyte : lead + byte ≤ lead + n / unit ∧ lead + n / unit ≤ lead + byte ↔
          n / unit = byte := by omega
      simp only [hbytes, List.mem_map, exists_exists_and_eq_and, passes_cons, hbyte,
        and_left_comm, exists_and_left]
      rw [ih 0x80 h]
    have hwhole (low high : Nat) : (low < high ∧
        ∃ s ∈ [(lead + low, lead + high - 1) :: List.replicate (count + 1) (0x80, 0xBF)],
          Passes s (bytes lead (count + 1) n)) ↔ low ≤ n / unit ∧ n / unit < high := by
      have hcontinued : Passes (List.replicate (count + 1) (0x80, 0xBF))
          (bytes 0x80 count (n % unit)) := passes_replicate (by rw [hunit]; exact hn)
      simp only [List.mem_singleton, exists_eq_left, hbytes, passes_cons, hcontinued, and_true]
      omega
    have han : a ≤ n ↔ _ := le_iff_div_mod unit
    have hnb : n ≤ b ↔ _ := le_iff_div_mod unit
    rw [han, hnb, sequences, hunit]
    dsimp only
    rw [le_iff_div_mod unit] at hab
    split
    · rw [hafter _ (by omega)]
      omega
    · rw [exists_passes_append, exists_passes_append, exists_passes_if, exists_passes_if,
        exists_passes_if, hafter _ (by omega), hafter _ (by omega), hwhole]
      split <;> split <;> omega

theorem length_of_mem_sequences {s : List ByteRange} (hs : s ∈ sequences lead count a b) :
    s.length = count + 1 := by
  induction count generalizing lead a b s with
  | zero =>
    rw [sequences, List.mem_singleton] at hs
    rw [hs]
    rfl
  | succ count ih =>
    have hafter {range : ByteRange} {a b : Nat}
        (h : s ∈ (sequences 0x80 count a b).map (range :: ·)) : s.length = count + 1 + 1 := by
      obtain ⟨tail, htail, rfl⟩ := List.mem_map.1 h
      rw [List.length_cons, ih htail]
    rw [sequences] at hs
    dsimp only at hs
    split at hs
    · exact hafter hs
    · simp only [List.mem_append, List.mem_ite_nil_right] at hs
      rcases hs with (⟨-, hs⟩ | ⟨-, hs⟩) | ⟨-, hs⟩
      · exact hafter hs
      · rw [List.mem_singleton.1 hs, List.length_cons, List.length_replicate]
      · exact hafter hs

end Sequences

/-! ### Characters -/

/-- Encodings of one length begin alike. -/
theorem lead_eq_of_count_eq : ∀ e ∈ all, ∀ e' ∈ all, e.count = e'.count → e.lead = e'.lead := by
  decide

theorem bytes_two (lead n : Nat) :
    bytes lead 2 n = [lead + n / 4096, 0x80 + n / 64 % 64, 0x80 + n % 64] := by
  rw [show n / 64 % 64 = n % 4096 / 64 by omega, show n % 64 = n % 4096 % 64 by omega]
  rfl

theorem bytes_three (lead n : Nat) : bytes lead 3 n =
    [lead + n / 262144, 0x80 + n / 4096 % 64, 0x80 + n / 64 % 64, 0x80 + n % 64] := by
  have hrest : bytes lead 3 n = (lead + n / 262144) :: bytes 0x80 2 (n % 262144) := rfl
  rw [hrest, bytes_two, show n % 262144 / 4096 = n / 4096 % 64 by omega,
    show n % 262144 / 64 % 64 = n / 64 % 64 by omega, show n % 262144 % 64 = n % 64 by omega]

/-- The bytes of a character are those of one of the encodings. -/
theorem exists_encoding (c : Char) : ∃ e ∈ all, (e.first ≤ c.toNat ∧ c.toNat ≤ e.last) ∧
    Utf8.encodeChar c = bytes e.lead e.count c.toNat := by
  have hvalid : c.toNat < 0xD800 ∨ (0xDFFF < c.toNat ∧ c.toNat < 0x110000) := c.valid
  unfold Utf8.encodeChar
  dsimp only
  by_cases hone : c.toNat < 0x80
  · rw [if_pos hone]
    exact ⟨⟨0, 0x7F, 0, 0⟩, by decide, ⟨Nat.zero_le _, Nat.le_of_lt_succ hone⟩,
      congrArg (fun n => [n]) (Nat.zero_add _).symm⟩
  rw [if_neg hone]
  by_cases htwo : c.toNat < 0x800
  · rw [if_pos htwo]
    exact ⟨⟨0x80, 0x7FF, 0xC0, 1⟩, by decide, ⟨Nat.le_of_not_lt hone, Nat.le_of_lt_succ htwo⟩, rfl⟩
  rw [if_neg htwo]
  by_cases hlast : c.toNat < 0x10000
  · rw [if_pos hlast]
    rcases hvalid with hbelow | ⟨habove, -⟩
    · exact ⟨⟨0x800, 0xD7FF, 0xE0, 2⟩, by decide,
        ⟨Nat.le_of_not_lt htwo, Nat.le_of_lt_succ hbelow⟩, (bytes_two _ _).symm⟩
    · exact ⟨⟨0xE000, 0xFFFF, 0xE0, 2⟩, by decide, ⟨habove, Nat.le_of_lt_succ hlast⟩,
        (bytes_two _ _).symm⟩
  · rw [if_neg hlast]
    rcases hvalid with hbelow | ⟨-, hvalid⟩
    · omega
    · exact ⟨⟨0x10000, 0x10FFFF, 0xF0, 3⟩, by decide,
        ⟨Nat.le_of_not_lt hlast, Nat.le_of_lt_succ hvalid⟩, (bytes_three _ _).symm⟩

/-- A character has bytes that pass one of the sequences for a range just when it is in the range. -/
theorem exists_passes_rangeSequences_iff (first last : Nat) (c : Char) :
    (∃ s ∈ rangeSequences first last, Passes s (Utf8.encodeChar c)) ↔
      first ≤ c.toNat ∧ c.toNat ≤ last := by
  obtain ⟨e, he, hc, hbytes⟩ := exists_encoding c
  rw [hbytes]
  constructor
  · rintro ⟨s, hs, hpasses⟩
    obtain ⟨e', he', hs⟩ := List.mem_flatMap.1 hs
    split at hs
    · next hle =>
      have hcount : e.count = e'.count := by
        have hlength := List.Forall₂.length_eq hpasses
        rw [length_of_mem_sequences hs, length_bytes] at hlength
        omega
      rw [lead_eq_of_count_eq e he e' he' hcount, hcount] at hpasses
      have hbounds := (exists_passes_sequences_iff e'.lead hle).1 ⟨s, hs, hpasses⟩
      omega
    · cases hs
  · rintro ⟨hfirst, hlast⟩
    have hle : max first e.first ≤ min last e.last := by omega
    obtain ⟨s, hs, hpasses⟩ := (exists_passes_sequences_iff e.lead hle).2
      (show max first e.first ≤ c.toNat ∧ c.toNat ≤ min last e.last by omega)
    refine ⟨s, List.mem_flatMap.2 ⟨e, he, ?_⟩, hpasses⟩
    rw [if_pos hle]
    exact hs

end Encoding

/-- A character has bytes that pass one of the sequences of a set just when it is in the set. -/
theorem CharSet.exists_passes_iff (s : CharSet) (c : Char) :
    (∃ sequence ∈ s.sequences, Encoding.Passes sequence (Utf8.encodeChar c)) ↔
      s.holds c.toNat = true := by
  have hmax : c.toNat ≤ maxCode := by
    have hvalid : c.toNat < 0xD800 ∨ (0xDFFF < c.toNat ∧ c.toNat < 0x110000) := c.valid
    unfold maxCode
    omega
  rw [← s.covers_ranges_iff hmax]
  constructor
  · rintro ⟨sequence, hmem, hpasses⟩
    obtain ⟨r, hr, hmem⟩ := List.mem_flatMap.1 hmem
    exact ⟨r, hr, (Encoding.exists_passes_rangeSequences_iff r.1 r.2 c).1 ⟨sequence, hmem, hpasses⟩⟩
  · rintro ⟨r, hr, hbounds⟩
    obtain ⟨sequence, hmem, hpasses⟩ :=
      (Encoding.exists_passes_rangeSequences_iff r.1 r.2 c).2 hbounds
    exact ⟨sequence, List.mem_flatMap.2 ⟨r, hr, hmem⟩, hpasses⟩

end Extraction.Text
