import Mathlib.Data.List.Basic
import Mathlib.Tactic.Ring
import Extraction.Url.Punycode
import Extraction.Proofs.TextFacts

/-!
# Labels in Punycode

Writing a label in Punycode and reading it back. The writer goes through the code points of the
label in increasing order and counts the places it passes; the reader inserts each code point at the
place that the counts tell. Both keep the same label of what has been placed so far.

## Main definitions

* `Punycode.Reading`: what the reader has reached
* `Punycode.Reads`: a text takes the reader from one point to another
* `Punycode.InStep`: the reader has placed what the writer has written

## Main statements

* `Punycode.number?_digits`: a written number is read back
* `Punycode.exists_numbers`: a written label is its ASCII characters and numbers that place the
  others
* `Punycode.decode?_encode`: a written label is read back
-/

namespace Extraction.Url.Punycode

/-! ### Numbers -/

theorem threshold_pos (bias k : Nat) : 1 ≤ threshold bias k := by
  unfold threshold
  split_ifs <;> omega

theorem threshold_le (bias k : Nat) : threshold bias k ≤ 26 := by
  unfold threshold
  split_ifs <;> omega

/-- Whether a character is a digit as they are written: a small letter or a decimal digit. -/
def IsDigit (c : Char) : Prop := ∃ d < 36, c = digit d

theorem value_digit : ∀ d < 36, ∃ v, Text.digitValue? 36 (digit d) = some v ∧
    (if v < 10 then v + 26 else v - 10) = d := by
  decide

theorem isDigit_of_mem_digits {bias k q : Nat} {c : Char} (hc : c ∈ digits bias k q) :
    IsDigit c := by
  have hpos := threshold_pos bias
  have hle := threshold_le bias
  fun_induction digits bias k q with
  | case1 k q t ht =>
    have hlt : q < 36 := by
      have := hle k
      omega
    exact ⟨q, hlt, List.mem_singleton.1 hc⟩
  | case2 k q t ht ih =>
    rcases List.mem_cons.1 hc with rfl | hc
    · refine ⟨_, ?_, rfl⟩
      have hlow := hpos k
      have hhigh := hle k
      have := Nat.mod_lt (q - t) (show 36 - t > 0 by omega)
      omega
    · exact ih hc

theorem digits_ne_nil (bias k q : Nat) : digits bias k q ≠ [] := by
  rw [digits]
  split <;> exact List.cons_ne_nil _ _

/-- A written number is read back, whatever follows it, unless it is too large. -/
theorem number?_digits (bias k q weight i : Nat) (rest : Text) (hq : i + q * weight < 0x80000000) :
    number? bias k weight i (digits bias k q ++ rest) = some (i + q * weight, rest) := by
  have hpos := threshold_pos bias
  have hle := threshold_le bias
  fun_induction digits bias k q generalizing weight i with
  | case1 k q t ht =>
    have hlt : q < 36 := by
      have := hle k
      omega
    obtain ⟨v, hv, hd⟩ := value_digit q hlt
    rw [List.singleton_append, number?, hv]
    dsimp only
    rw [hd, if_neg (by omega), if_pos ht]
  | case2 k q t ht ih =>
    have hlow := hpos k
    have hhigh := hle k
    have hmod := Nat.mod_lt (q - t) (show 36 - t > 0 by omega)
    have hdiv := Nat.mod_add_div (q - t) (36 - t)
    obtain ⟨v, hv, hd⟩ := value_digit (t + (q - t) % (36 - t)) (by omega)
    -- The digit and what the others stand for make up the number.
    have hsplit : (t + (q - t) % (36 - t)) * weight +
        (q - t) / (36 - t) * (weight * (36 - t)) = q * weight := by
      have hsum : t + (q - t) % (36 - t) + (36 - t) * ((q - t) / (36 - t)) = q := by omega
      calc _ = (t + (q - t) % (36 - t) + (36 - t) * ((q - t) / (36 - t))) * weight := by ring
        _ = q * weight := by rw [hsum]
    rw [List.cons_append, number?, hv]
    dsimp only
    rw [hd, if_neg (by omega), if_neg (by omega)]
    refine (ih (weight * (36 - t)) (i + (t + (q - t) % (36 - t)) * weight) (by omega)).trans ?_
    rw [Nat.add_assoc, hsplit]

/-! ### The reader -/

/-- What the reader has reached: the code point to be placed next, the place before which nothing
more is placed with it, the bias, and the label so far. -/
structure Reading where
  point : Nat
  place : Nat
  bias : Nat
  label : List Nat

/-- A text takes the reader from one point to another, whatever follows the text. -/
def Reads (r : Reading) (s : Text) (t : Reading) : Prop :=
  ∀ rest fuel, (s ++ rest).length ≤ fuel → ∃ left, rest.length ≤ left ∧
    place? fuel r.point r.place r.bias r.label (s ++ rest) =
      place? left t.point t.place t.bias t.label rest

theorem Reads.refl (r : Reading) : Reads r [] r := fun _ fuel hfuel => ⟨fuel, hfuel, rfl⟩

theorem Reads.append {r t u : Reading} {s s' : Text} (h : Reads r s t) (h' : Reads t s' u) :
    Reads r (s ++ s') u := by
  intro rest fuel hfuel
  rw [List.append_assoc] at hfuel ⊢
  obtain ⟨left, hleft, heq⟩ := h (s' ++ rest) fuel hfuel
  obtain ⟨left', hleft', heq'⟩ := h' rest left hleft
  exact ⟨left', hleft', heq.trans heq'⟩

theorem Reads.place? {r t : Reading} {s : Text} (h : Reads r s t) :
    place? s.length r.point r.place r.bias r.label s = some t.label := by
  obtain ⟨left, -, heq⟩ := h [] s.length (by rw [List.append_nil])
  rw [List.append_nil] at heq
  rw [heq]
  cases left <;> rfl

theorem insertIdx_length_append {α : Type} (before after : List α) (a : α) :
    (before ++ after).insertIdx before.length a = before ++ a :: after := by
  induction before with
  | nil => rfl
  | cons b before ih =>
    rw [List.cons_append, List.length_cons, List.insertIdx_succ_cons, ih, List.cons_append]

/-- The number that tells how far the next character is from the last one places it. -/
theorem reads_digits {before after : List Nat} {r : Reading} {q m : Nat}
    (hlabel : r.label = before ++ after) (hpoint : r.point ≤ m) (hm : m ≤ 0x10FFFF)
    (hq : r.place + q = (m - r.point) * (r.label.length + 1) + before.length)
    (hsmall : r.place + q < 0x80000000) :
    Reads r (digits r.bias 36 q)
      ⟨m, before.length + 1, adapt q (r.label.length + 1) (r.place == 0),
        before ++ m :: after⟩ := by
  intro rest fuel hfuel
  obtain ⟨c, ds, hds⟩ := List.exists_cons_of_ne_nil (digits_ne_nil r.bias 36 q)
  have hlength : 1 ≤ (digits r.bias 36 q).length := List.length_pos_iff.2 (digits_ne_nil _ _ _)
  rw [List.length_append] at hfuel
  obtain ⟨fuel, rfl⟩ := Nat.exists_eq_add_of_le' (show 1 ≤ fuel by omega)
  have hbefore : before.length < r.label.length + 1 := by
    rw [hlabel, List.length_append]
    omega
  have hdiv : (r.place + q) / (r.label.length + 1) = m - r.point := by
    rw [hq, Nat.add_comm, Nat.add_mul_div_right _ _ (Nat.succ_pos _), Nat.div_eq_of_lt hbefore,
      Nat.zero_add]
  have hmod : (r.place + q) % (r.label.length + 1) = before.length := by
    rw [hq, Nat.add_comm, Nat.add_mul_mod_self_right, Nat.mod_eq_of_lt hbefore]
  have hinsert : r.label.insertIdx before.length m = before ++ m :: after := by
    rw [hlabel]
    exact insertIdx_length_append before after m
  refine ⟨fuel, by omega, ?_⟩
  have hnumber := number?_digits r.bias 36 q 1 r.place rest (by omega)
  rw [Nat.mul_one] at hnumber
  rw [hds, List.cons_append] at hnumber ⊢
  rw [Punycode.place?, hnumber]
  dsimp only
  rw [hdiv, hmod, Nat.add_sub_cancel' hpoint, hinsert, if_neg (by omega), Nat.add_sub_cancel_left]

/-! ### The writer -/

theorem writePoint_cons (c : Nat) (after : List Nat) (basic m : Nat) (p : Progress) :
    writePoint (c :: after) basic m p = writePoint after basic m
      (if c < m then ⟨p.output, p.bias, p.delta + 1, p.placed⟩
      else if c = m then
        ⟨p.output ++ digits p.bias 36 p.delta, adapt p.delta (p.placed + 1) (p.placed == basic), 0,
          p.placed + 1⟩
      else p) := rfl

/-- Only digits are added for a code point. -/
theorem exists_digits_writePoint (label : List Nat) (basic m : Nat) (p : Progress) :
    ∃ s, (writePoint label basic m p).output = p.output ++ s ∧ ∀ c ∈ s, IsDigit c := by
  induction label generalizing p with
  | nil => exact ⟨[], (List.append_nil _).symm, List.forall_mem_nil _⟩
  | cons c label ih =>
    rw [writePoint_cons]
    split_ifs
    · exact ih _
    · obtain ⟨s, hout, hs⟩ := ih ⟨p.output ++ digits p.bias 36 p.delta,
        adapt p.delta (p.placed + 1) (p.placed == basic), 0, p.placed + 1⟩
      exact ⟨digits p.bias 36 p.delta ++ s, by rw [hout, List.append_assoc],
        List.forall_mem_append.2 ⟨fun c hc => isDigit_of_mem_digits hc, hs⟩⟩
    · exact ih _

theorem exists_digits_writePoints (label : List Nat) (basic n : Nat) (ms : List Nat)
    (p : Progress) :
    ∃ s, writePoints label basic n ms p = p.output ++ s ∧ ∀ c ∈ s, IsDigit c := by
  induction ms generalizing n p with
  | nil => exact ⟨[], (List.append_nil _).symm, List.forall_mem_nil _⟩
  | cons m ms ih =>
    rw [writePoints]
    obtain ⟨s, hout, hs⟩ := exists_digits_writePoint label basic m
      ⟨p.output, p.bias, p.delta + (m - n) * (p.placed + 1), p.placed⟩
    obtain ⟨s', hout', hs'⟩ := ih (m + 1) _
    exact ⟨s ++ s', by rw [hout', hout, List.append_assoc], List.forall_mem_append.2 ⟨hs, hs'⟩⟩

/-! ### The writer and the reader -/

/-- What the writer adds between two points takes the reader along. -/
def Moves (p : Progress) (r : Reading) (p' : Progress) (r' : Reading) : Prop :=
  ∃ s, p'.output = p.output ++ s ∧ Reads r s r'

theorem Moves.silent {p p' : Progress} (h : p'.output = p.output) (r : Reading) :
    Moves p r p' r :=
  ⟨[], by rw [h, List.append_nil], .refl r⟩

theorem Moves.trans {p p' p'' : Progress} {r r' r'' : Reading} (h : Moves p r p' r')
    (h' : Moves p' r' p'' r'') : Moves p r p'' r'' := by
  obtain ⟨s, hout, hreads⟩ := h
  obtain ⟨s', hout', hreads'⟩ := h'
  exact ⟨s ++ s', by rw [hout', hout, List.append_assoc], hreads.append hreads'⟩

/-- The reader has placed what the writer has written: all code points below `m`, and `m` itself
where it stands in the part `before` of the label that the writer has passed. -/
structure InStep (basic m : Nat) (before after : List Nat) (p : Progress) (r : Reading) : Prop where
  label : r.label = before.filter (· ≤ m) ++ after.filter (· < m)
  placed : p.placed = r.label.length
  bias : p.bias = r.bias
  point : r.point ≤ m
  distance : r.place + p.delta = (m - r.point) * (p.placed + 1) + (before.filter (· ≤ m)).length
  first : r.place = 0 ↔ p.placed = basic
  basic_le : basic ≤ p.placed

section InStep

variable {basic m n c : Nat} {before after points : List Nat} {p : Progress} {r : Reading}

theorem InStep.below (h : InStep basic m before (c :: after) p r) (hc : c < m) :
    InStep basic m (before ++ [c]) after ⟨p.output, p.bias, p.delta + 1, p.placed⟩ r where
  label := by simp [h.label, hc, hc.le]
  placed := h.placed
  bias := h.bias
  point := h.point
  distance := by
    have := h.distance
    simp [hc.le]
    omega
  first := h.first
  basic_le := h.basic_le

theorem InStep.above (h : InStep basic m before (c :: after) p r) (hc : m < c) :
    InStep basic m (before ++ [c]) after p r where
  label := by simp [h.label, hc.not_gt, hc.not_ge]
  placed := h.placed
  bias := h.bias
  point := h.point
  distance := by simp [h.distance, hc.not_ge]
  first := h.first
  basic_le := h.basic_le

/-- The longest label that is written has numbers that the reader takes. -/
theorem InStep.small (h : InStep basic m before after p r) (hm : m ≤ 0x10FFFF)
    (hlength : before.length + after.length ≤ 1000) : r.place + p.delta < 0x80000000 := by
  have hbefore := List.length_filter_le (fun x => decide (x ≤ m)) before
  have hafter := List.length_filter_le (fun x => decide (x < m)) after
  have hplaced : p.placed ≤ 1000 := by
    rw [h.placed, h.label, List.length_append]
    omega
  have hmul : (m - r.point) * (p.placed + 1) ≤ 0x10FFFF * 1001 :=
    Nat.mul_le_mul (by omega) (by omega)
  rw [h.distance]
  omega

/-- Where the writer meets the code point that it writes, the number takes the reader along. -/
theorem InStep.met (h : InStep basic m before (m :: after) p r) (hm : m ≤ 0x10FFFF)
    (hlength : before.length + (m :: after).length ≤ 1000) :
    ∃ t, Moves p r
        ⟨p.output ++ digits p.bias 36 p.delta, adapt p.delta (p.placed + 1) (p.placed == basic), 0,
          p.placed + 1⟩ t ∧
      InStep basic m (before ++ [m]) after
        ⟨p.output ++ digits p.bias 36 p.delta, adapt p.delta (p.placed + 1) (p.placed == basic), 0,
          p.placed + 1⟩ t := by
  have hlabel : r.label = before.filter (· ≤ m) ++ after.filter (· < m) := by
    simpa using h.label
  have hreads := reads_digits hlabel h.point hm (h.placed ▸ h.distance) (h.small hm hlength)
  have hfirst : (r.place == 0) = (p.placed == basic) := by
    rw [Bool.eq_iff_iff, beq_iff_eq, beq_iff_eq]
    exact h.first
  rw [← h.bias, ← h.placed, hfirst] at hreads
  refine ⟨_, ⟨_, rfl, hreads⟩, ?_⟩
  have hplaced := h.placed
  rw [hlabel, List.length_append] at hplaced
  have hbasic := h.basic_le
  exact {
    label := by simp
    placed := by
      simp only [List.length_append, List.length_cons]
      omega
    bias := rfl
    point := le_rfl
    distance := by simp
    first := iff_of_false (Nat.succ_ne_zero _) (by
      dsimp only
      omega)
    basic_le := by
      dsimp only
      omega }

/-- The writer goes through the rest of the label, and the reader follows. -/
theorem InStep.writePoint (h : InStep basic m before after p r) (hm : m ≤ 0x10FFFF)
    (hlength : before.length + after.length ≤ 1000) :
    ∃ t, Moves p r (writePoint after basic m p) t ∧
      InStep basic m (before ++ after) [] (writePoint after basic m p) t := by
  -- By induction on what the writer has not passed; the part that it has passed grows.
  induction after generalizing before p r with
  | nil => exact ⟨r, .silent rfl r, by rwa [List.append_nil]⟩
  | cons c after ih =>
    have hrest : (before ++ [c]).length + after.length ≤ 1000 := by
      simp only [List.length_append, List.length_cons, List.length_nil] at hlength ⊢
      omega
    rw [List.append_cons]
    rcases lt_trichotomy c m with hc | rfl | hc
    · rw [writePoint_cons, if_pos hc]
      obtain ⟨t, hmoves, ht⟩ := ih (h.below hc) hrest
      exact ⟨t, (Moves.silent rfl r).trans hmoves, ht⟩
    · rw [writePoint_cons, if_neg (lt_irrefl c), if_pos rfl]
      obtain ⟨t, hmoves, ht⟩ := h.met hm hlength
      obtain ⟨u, hmoves', hu⟩ := ih ht hrest
      exact ⟨u, hmoves.trans hmoves', hu⟩
    · rw [writePoint_cons, if_neg hc.not_gt, if_neg hc.ne']
      exact ih (h.above hc) hrest

/-- No code point of the label lies between, so the writer only counts on. -/
theorem InStep.advance (h : InStep basic n [] points p r) (hn : n ≤ m)
    (hnone : ∀ c ∈ points, n ≤ c → m ≤ c) :
    InStep basic m [] points
      ⟨p.output, p.bias, p.delta + (m - n) * (p.placed + 1), p.placed⟩ r where
  label := by
    rw [h.label]
    refine congrArg _ (List.filter_congr fun c hc => ?_)
    have := hnone c hc
    simp only [decide_eq_decide]
    omega
  placed := h.placed
  bias := h.bias
  point := h.point.trans hn
  distance := by
    have hdistance := h.distance
    have hsum : m - r.point = (n - r.point) + (m - n) := by
      have := h.point
      omega
    rw [hsum, Nat.add_mul]
    simp only [List.filter_nil, List.length_nil] at hdistance ⊢
    omega
  first := h.first
  basic_le := h.basic_le

/-- At the end of the label the writer turns to the next code point. -/
theorem InStep.turn (h : InStep basic m points [] p r) :
    InStep basic (m + 1) [] points ⟨p.output, p.bias, p.delta + 1, p.placed⟩ r where
  label := by
    rw [h.label]
    simp only [List.filter_nil, List.append_nil, List.nil_append, Nat.lt_succ_iff]
  placed := h.placed
  bias := h.bias
  point := h.point.trans (Nat.le_succ m)
  distance := by
    have hdistance := h.distance
    have hplaced := h.placed
    have hpoint := h.point
    rw [h.label, List.filter_nil, List.append_nil] at hplaced
    rw [Nat.sub_add_comm hpoint, Nat.add_mul, Nat.one_mul]
    simp only [List.filter_nil, List.length_nil]
    omega
  first := h.first
  basic_le := h.basic_le

/-- The writer goes through the code points that are left, and the reader gets the whole label. -/
theorem InStep.writePoints {ms : List Nat} (h : InStep basic n [] points p r)
    (hsorted : ms.Pairwise (· < ·)) (hlow : ∀ m ∈ ms, n ≤ m ∧ m ≤ 0x10FFFF)
    (hall : ∀ c ∈ points, n ≤ c → c ∈ ms) (hlength : points.length ≤ 1000) :
    ∃ s t, writePoints points basic n ms p = p.output ++ s ∧ Reads r s t ∧ t.label = points := by
  -- By induction on the code points that are left; at the end the whole label is placed.
  induction ms generalizing n p r with
  | nil =>
    refine ⟨[], r, (List.append_nil _).symm, .refl r, ?_⟩
    rw [h.label, List.filter_nil, List.nil_append, List.filter_eq_self]
    intro c hc
    have hlt : c < n := not_le.1 fun hle => List.not_mem_nil (hall c hc hle)
    exact decide_eq_true hlt
  | cons m ms ih =>
    obtain ⟨hmin, hsorted⟩ := List.pairwise_cons.1 hsorted
    obtain ⟨⟨hn, hm⟩, hlow⟩ := List.forall_mem_cons.1 hlow
    have hstart := h.advance hn fun c hc hle => by
      rcases List.mem_cons.1 (hall c hc hle) with rfl | hmem
      · exact le_rfl
      · exact (hmin c hmem).le
    obtain ⟨t, ⟨s, hout, hreads⟩, ht⟩ :=
      hstart.writePoint hm (by rwa [List.length_nil, Nat.zero_add])
    obtain ⟨s', u, hout', hreads', hu⟩ := ih ht.turn hsorted
      (fun m' hm' => ⟨hmin m' hm', (hlow m' hm').2⟩)
      fun c hc hle => (List.mem_cons.1 (hall c hc (by omega))).resolve_left (by omega)
    refine ⟨s ++ s', u, ?_, hreads.append hreads', hu⟩
    rw [Punycode.writePoints, hout', hout, List.append_assoc]

end InStep

/-! ### Labels -/

section Labels

variable {label : Text}

theorem pairwise_lt_eraseDups (l : List Nat) (h : l.Pairwise (· ≤ ·)) :
    l.eraseDups.Pairwise (· < ·) := by
  induction hn : l.length using Nat.strong_induction_on generalizing l with
  | _ n ih =>
    cases l with
    | nil => exact List.Pairwise.nil
    | cons a l =>
      obtain ⟨ha, hl⟩ := List.pairwise_cons.1 h
      rw [List.eraseDups_cons, List.pairwise_cons]
      refine ⟨fun b hb => ?_, ih _ ?_ _ (hl.filter _) rfl⟩
      · rw [List.mem_eraseDups, List.mem_filter] at hb
        have hne : b ≠ a := by simpa using hb.2
        exact lt_of_le_of_ne (ha b hb.1) hne.symm
      · rw [← hn, List.length_cons]
        exact Nat.lt_succ_of_le (List.length_filter_le _ _)

/-- The ASCII characters of a label. -/
def basicText (label : Text) : Text := label.filter (·.toNat < 128)

/-- What a written label begins with: its ASCII characters and a hyphen, if it has any. -/
def opening (label : Text) : Text :=
  if (basicText label).isEmpty then [] else basicText label ++ ['-']

/-- The code points outside ASCII of a label, in increasing order. -/
def otherPoints (label : Text) : List Nat :=
  (((label.map Char.toNat).filter (128 ≤ ·)).mergeSort (· ≤ ·)).eraseDups

theorem encode_eq (label : Text) :
    encode label = writePoints (label.map Char.toNat) (basicText label).length 128
      (otherPoints label) ⟨opening label, 72, 0, (basicText label).length⟩ := rfl

theorem mem_otherPoints_iff {m : Nat} :
    m ∈ otherPoints label ↔ m ∈ label.map Char.toNat ∧ 128 ≤ m := by
  rw [otherPoints, List.mem_eraseDups, List.mem_mergeSort, List.mem_filter, decide_eq_true_iff]

theorem pairwise_otherPoints (label : Text) : (otherPoints label).Pairwise (· < ·) := by
  refine pairwise_lt_eraseDups _ ((List.pairwise_mergeSort ?_ ?_ _).imp of_decide_eq_true)
  · intro a b c hab hbc
    exact decide_eq_true ((of_decide_eq_true hab).trans (of_decide_eq_true hbc))
  · intro a b
    simpa using Nat.le_total a b

theorem map_basicText (label : Text) :
    (basicText label).map Char.toNat = (label.map Char.toNat).filter (· < 128) := by
  rw [List.filter_map]
  rfl

/-- A written label is its opening and digits. -/
theorem exists_digits_encode (label : Text) :
    ∃ s, encode label = opening label ++ s ∧ ∀ c ∈ s, IsDigit c :=
  exists_digits_writePoints _ _ _ _ _

/-- The digits place the characters outside ASCII. -/
theorem place?_of_encode (hlength : label.length ≤ 1000) {s : Text}
    (hs : encode label = opening label ++ s) :
    place? s.length 128 0 72 ((basicText label).map Char.toNat) s =
      some (label.map Char.toNat) := by
  have hstart : InStep (basicText label).length 128 [] (label.map Char.toNat)
      ⟨opening label, 72, 0, (basicText label).length⟩
      ⟨128, 0, 72, (basicText label).map Char.toNat⟩ := {
    label := map_basicText label
    placed := (List.length_map _).symm
    bias := rfl
    point := le_rfl
    distance := by simp
    first := iff_of_true rfl rfl
    basic_le := le_rfl }
  have hbounds : ∀ m ∈ otherPoints label, 128 ≤ m ∧ m ≤ 0x10FFFF := fun m hm => by
    obtain ⟨hm, hle⟩ := mem_otherPoints_iff.1 hm
    obtain ⟨c, -, rfl⟩ := List.mem_map.1 hm
    have hvalid : c.toNat.isValidChar := c.valid
    exact ⟨hle, by
      unfold Nat.isValidChar at hvalid
      omega⟩
  obtain ⟨s', t, hout, hreads, ht⟩ := hstart.writePoints (pairwise_otherPoints label) hbounds
    (fun c hc hle => mem_otherPoints_iff.2 ⟨hc, hle⟩) (by rwa [List.length_map])
  rw [← encode_eq, hs, List.append_cancel_left_eq] at hout
  rw [hout, ← ht]
  exact hreads.place?

theorem hyphen_ne_digit : ∀ d < 36, digit d ≠ '-' := by
  decide

theorem parts_opening_append {s : Text} (hs : ∀ c ∈ s, IsDigit c) :
    parts (opening label ++ s) = (basicText label, s) := by
  have hhyphen : '-' ∉ s.reverse := fun hmem => by
    obtain ⟨d, hd, hc⟩ := hs _ (List.mem_reverse.1 hmem)
    exact hyphen_ne_digit d hd hc.symm
  unfold parts opening
  split_ifs with hbasic
  · rw [List.nil_append, Text.splitOnce?_eq_none_of_notMem hhyphen, List.isEmpty_iff.1 hbasic]
  · have hcut : Text.splitOnce? ['-'] ((basicText label ++ ['-'] ++ s).reverse) =
        some (s.reverse, (basicText label).reverse) := by
      rw [List.reverse_append, List.reverse_append]
      exact Text.splitOnce?_of_notMem hhyphen _ _
    rw [hcut]
    simp

/-- A label is read back from its written form. -/
theorem decode?_encode (hlength : label.length ≤ 1000) : decode? (encode label) = some label := by
  obtain ⟨s, hs, hdigits⟩ := exists_digits_encode label
  have hplace := place?_of_encode hlength hs
  have hascii : (basicText label).all (·.toNat < 128) = true := by
    rw [List.all_eq_true]
    exact fun c hc => (List.mem_filter.1 hc).2
  have hvalid : ((label.map Char.toNat).all fun n => (Char.ofNat n).toNat == n) = true := by
    simp [Char.ofNat_toNat]
  unfold decode?
  rw [hs, parts_opening_append hdigits]
  dsimp only
  rw [if_pos hascii, hplace, Option.bind_some, if_pos hvalid, List.map_map]
  exact congrArg some (List.map_id'' Char.ofNat_toNat label)

end Labels

end Extraction.Url.Punycode
