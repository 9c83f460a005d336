import Mathlib.Tactic.Ring
import Extraction.Url.Host
import Extraction.Proofs.DomainNames
import Extraction.Proofs.WrittenReferences

/-!
# Numeric hosts

IPv4 and IPv6 addresses in their usual form are read as the addresses that they write.

## Main definitions

* `Host.AreBytes`: numbers that make up an IPv4 address
* `Host.ArePieces`: the pieces of an IPv6 address

## Main statements

* `Host.ipv4_ipv4Text`: an IPv4 address is read back
* `Host.ipv6_compressed`: an IPv6 address is read back, whichever zero pieces are left out
* `Host.exists_of_ipv4`, `Host.exists_of_ipv6`: only addresses in their usual form are answered
-/

namespace Extraction.Url.Host

variable {name s : Text}

/-! ### IPv4 -/

theorem number?_ofNat : ∀ n < 256, number? (Text.ofNat n) = some n := by
  decide +kernel

/-- The four bytes of an IPv4 address. -/
def bytes (address : Nat) : List Nat :=
  [address / 16777216, address / 65536 % 256, address / 256 % 256, address % 256]

/-- What numbers must be to make up an IPv4 address: all but the last are bytes. -/
structure AreBytes (numbers : List Nat) (last : Nat) : Prop where
  getLast? : numbers.getLast? = some last
  length : numbers.dropLast.length ≤ 3
  last : last < Nat.pow 256 (4 - numbers.dropLast.length)
  front : ∀ n ∈ numbers.dropLast, n ≤ 255

theorem exists_of_ipv4 (h : ipv4 name = .ok s) :
    ∃ numbers last, AreBytes numbers last ∧ s = ipv4Text (ipv4Value 16777216 numbers) := by
  unfold ipv4 at h
  split at h
  next numbers hnumbers =>
    split at h
    next last hlast =>
      dsimp only at h
      split_ifs at h with hbad
      · cases h
      · cases h
        rw [not_or, not_or, not_lt, not_le, Bool.not_eq_true, List.any_eq_false] at hbad
        exact ⟨numbers, last,
          ⟨hlast, hbad.1, hbad.2.1, fun n hn => by simpa using hbad.2.2 n hn⟩, rfl⟩
    · cases h
  · cases h

theorem ipv4Value_lt {numbers : List Nat} {last : Nat} (h : AreBytes numbers last) :
    ipv4Value 16777216 numbers < 4294967296 := by
  obtain ⟨hget, hlength, hlast, hfront⟩ := h
  match numbers with
  | [] => cases hget
  | [d] =>
    cases hget
    exact hlast
  | [a, d] =>
    cases hget
    simp [ipv4Value] at hlast hfront ⊢
    omega
  | [a, b, d] =>
    cases hget
    simp [ipv4Value] at hlast hfront ⊢
    omega
  | [a, b, c, d] =>
    cases hget
    simp [ipv4Value] at hlast hfront ⊢
    omega
  | _ :: _ :: _ :: _ :: _ :: _ =>
    simp only [List.length_dropLast, List.length_cons] at hlength
    omega

section Address

variable {address : Nat} (haddress : address < 4294967296)

theorem ipv4Value_bytes (address : Nat) : ipv4Value 16777216 (bytes address) = address := by
  simp [ipv4Value, bytes]
  omega

include haddress in
theorem lt_of_mem_bytes : ∀ n ∈ bytes address, n < 256 := by
  simp [bytes]
  omega

theorem dot_notMem_ofNat (n : Nat) : '.' ∉ Text.ofNat n := fun hdot =>
  absurd (Text.isDigit_of_mem_ofNat hdot) (by decide)

theorem splitOn_ipv4Text (address : Nat) :
    Text.splitOn ['.'] (ipv4Text address) = (bytes address).map Text.ofNat := by
  refine Text.splitOn_intercalate (List.cons_ne_nil _ _) fun l hl => ?_
  obtain ⟨n, -, rfl⟩ := List.mem_map.1 hl
  exact dot_notMem_ofNat n

theorem parts_ipv4Text (address : Nat) :
    parts (ipv4Text address) = (bytes address).map Text.ofNat := by
  unfold parts
  rw [splitOn_ipv4Text]
  refine if_neg fun hlast => ?_
  exact Nat.toDigits_ne_nil (Option.some.inj hlast.2)

theorem endsInNumber_ipv4Text (address : Nat) : endsInNumber (ipv4Text address) = true := by
  have hdigits : (Text.ofNat (address % 256)).all Char.isDigit = true :=
    List.all_eq_true.2 fun c hc => Text.isDigit_of_mem_ofNat hc
  unfold endsInNumber
  rw [parts_ipv4Text, show ((bytes address).map Text.ofNat).getLast? =
    some (Text.ofNat (address % 256)) from rfl]
  split
  · next hnil => exact (Nat.toDigits_ne_nil (Option.some.inj hnil)).elim
  · next hnone => cases hnone
  · next hlast =>
    cases hlast
    rw [hdigits, Bool.true_or]

include haddress

/-- The written form of an IPv4 address is read as the address. -/
theorem ipv4_ipv4Text : ipv4 (ipv4Text address) = .ok (ipv4Text address) := by
  have hnumbers : (parts (ipv4Text address)).mapM number? = some (bytes address) := by
    rw [parts_ipv4Text, Domain.mapM_eq_some_iff, List.forall₂_map_left_iff, List.forall₂_same]
    exact fun n hn => number?_ofNat n (lt_of_mem_bytes haddress n hn)
  have hbytes := lt_of_mem_bytes haddress
  unfold ipv4
  rw [hnumbers]
  dsimp only
  rw [show (bytes address).getLast? = some (address % 256) from rfl]
  dsimp only
  rw [if_neg, ipv4Value_bytes]
  · rfl
  · simp [bytes] at hbytes ⊢
    omega

end Address

/-! ### IPv6 -/

/-- Eight numbers of sixteen bits. -/
structure ArePieces (ps : List Nat) : Prop where
  length : ps.length = 8
  bound : ∀ p ∈ ps, p < 65536

theorem digits?_hex (n : Nat) : Text.digits? 16 (hex n) = some n := by
  unfold hex
  rw [Text.digits?_eq_readDigits Nat.toDigits_ne_nil]
  exact Text.readDigits_toDigits (by decide) (by decide) n

theorem isDigit_of_mem_hex {n : Nat} {c : Char} (hc : c ∈ hex n) :
    (Text.digitValue? 16 c).isSome = true := by
  rw [Option.isSome_iff_ne_none]
  intro hnone
  exact Text.notMem_of_digits? (digits?_hex n) hnone hc

/-- A number in hexadecimal is a piece, unless a digit follows. -/
theorem piece_hex_append {n : Nat} (hn : n < 65536) {t : Text}
    (ht : ∀ c ∈ t.head?, Text.digitValue? 16 c = none) : piece (hex n ++ t) = (n, t) := by
  have hlength : (hex n).length ≤ 4 :=
    (Nat.length_toDigits_le_iff (by decide) (by decide)).2 hn
  have hrest : (t.take (4 - (hex n).length)).takeWhile
      (fun c => (Text.digitValue? 16 c).isSome) = [] := by
    cases t with
    | nil => rw [List.take_nil, List.takeWhile_nil]
    | cons c t =>
      cases 4 - (hex n).length with
      | zero => rfl
      | succ k =>
        rw [List.take_succ_cons, List.takeWhile_cons_of_neg]
        simp [ht c rfl]
  have hdigits : ((hex n ++ t).take 4).takeWhile (fun c => (Text.digitValue? 16 c).isSome) =
      hex n := by
    rw [List.take_append, List.take_of_length_le hlength,
      List.takeWhile_append_of_pos fun c hc => isDigit_of_mem_hex hc, hrest, List.append_nil]
  unfold piece
  dsimp only
  rw [hdigits, digits?_hex, Option.getD_some, List.drop_left]

theorem colons_cons {n : Nat} {ps : List Nat} (hne : ps ≠ []) :
    colons (n :: ps) = hex n ++ ':' :: colons ps := by
  unfold colons
  rw [List.map_cons, List.intercalate_cons_of_ne_nil (by simpa using hne), List.append_assoc]
  rfl

theorem colons_singleton (n : Nat) : colons [n] = hex n := List.intercalate_singleton

theorem pieces?_colons {ps : List Nat} (hne : ps ≠ []) (hps : ∀ p ∈ ps, p < 65536) {fuel : Nat}
    (hfuel : (colons ps).length ≤ fuel) : pieces? fuel (colons ps) = some ps := by
  induction ps generalizing fuel with
  | nil => exact (hne rfl).elim
  | cons n ps ih =>
    obtain ⟨hn, hps⟩ := List.forall_mem_cons.1 hps
    have hpos : 0 < (hex n).length := Nat.length_toDigits_pos
    by_cases hnil : ps = []
    · subst hnil
      rw [colons_singleton] at hfuel ⊢
      obtain ⟨fuel, rfl⟩ := Nat.exists_eq_add_of_le' (hpos.trans_le hfuel)
      have hpiece : piece (hex n ++ []) = (n, []) :=
        piece_hex_append hn fun c hc => (Option.not_mem_none c hc).elim
      rw [List.append_nil] at hpiece
      rw [pieces?, hpiece]
      exact if_neg hpos.ne
    · rw [colons_cons hnil] at hfuel ⊢
      rw [List.length_append, List.length_cons] at hfuel
      obtain ⟨fuel, rfl⟩ := Nat.exists_eq_add_of_le' (show 1 ≤ fuel by omega)
      have hpiece : piece (hex n ++ ':' :: colons ps) = (n, ':' :: colons ps) :=
        piece_hex_append hn fun c hc => by
          cases hc
          decide
      rw [pieces?, hpiece]
      dsimp only
      rw [if_neg]
      · change (pieces? fuel (colons ps)).map (n :: ·) = some (n :: ps)
        rw [ih hnil hps (by omega), Option.map_some]
      · rw [List.length_append]
        omega

theorem colons_ne_nil {ps : List Nat} (hne : ps ≠ []) : colons ps ≠ [] := by
  refine Text.intercalate_ne_nil (fun l hl => ?_) (by simpa using hne)
  obtain ⟨n, -, rfl⟩ := List.mem_map.1 hl
  exact Nat.toDigits_ne_nil

theorem side?_colons {ps : List Nat} (hps : ∀ p ∈ ps, p < 65536) :
    side? (colons ps) = some ps := by
  unfold side?
  by_cases hnil : ps = []
  · rw [hnil]
    rfl
  · rw [if_neg, pieces?_colons hnil hps le_rfl]
    exact fun hempty => colons_ne_nil hnil (List.isEmpty_iff.1 hempty)

theorem colon_notMem_hex (n : Nat) : ':' ∉ hex n := fun hmem =>
  absurd (isDigit_of_mem_hex hmem) (by decide)

/-- Pieces begin with no colon. -/
theorem exists_colons_eq {ps : List Nat} (hne : ps ≠ []) : ∃ c t, colons ps = c :: t ∧ c ≠ ':' := by
  obtain ⟨n, ps, rfl⟩ := List.exists_cons_of_ne_nil hne
  obtain ⟨c, ds, hds⟩ := List.exists_cons_of_ne_nil (Nat.toDigits_ne_nil (n := n) (b := 16))
  have hc : c ≠ ':' := by
    rintro rfl
    refine colon_notMem_hex n ?_
    rw [hex, hds]
    exact List.mem_cons_self
  by_cases hnil : ps = []
  · exact ⟨c, ds, by rw [hnil, colons_singleton, hex, hds], hc⟩
  · exact ⟨c, ds ++ ':' :: colons ps, by rw [colons_cons hnil, hex, hds, List.cons_append], hc⟩

/-- Every colon is followed by something that is no colon. -/
def ColonsApart (s : Text) : Prop := ∀ u v, s = u ++ ':' :: v → ∃ c t, v = c :: t ∧ c ≠ ':'

theorem colonsApart_of_notMem {s : Text} (h : ':' ∉ s) : ColonsApart s := fun u _ hs =>
  (h (hs ▸ List.mem_append_right u List.mem_cons_self)).elim

theorem colonsApart_colons (ps : List Nat) : ColonsApart (colons ps) := by
  induction ps with
  | nil => exact colonsApart_of_notMem List.not_mem_nil
  | cons n ps ih =>
    by_cases hnil : ps = []
    · rw [hnil, colons_singleton]
      exact colonsApart_of_notMem (colon_notMem_hex n)
    · rw [colons_cons hnil]
      intro u v h
      -- A colon stands among the digits, or right after them, or among the pieces that follow.
      rcases List.append_eq_append_iff.1 h with ⟨a, hu, ha⟩ | ⟨a, hu, ha⟩
      · cases a with
        | nil =>
          cases ha
          exact exists_colons_eq hnil
        | cons d a => exact ih a v (List.cons.inj ha).2
      · cases a with
        | nil =>
          cases ha
          exact exists_colons_eq hnil
        | cons d a =>
          obtain rfl : ':' = d := (List.cons.inj ha).1
          exact (colon_notMem_hex n (hu ▸ List.mem_append_right u List.mem_cons_self)).elim

theorem ColonsApart.splitOnce?_eq_none {s : Text} (h : ColonsApart s) :
    Text.splitOnce? [':', ':'] s = none := by
  rw [← Option.not_isSome_iff_eq_none]
  intro hsome
  obtain ⟨u, v, hs⟩ := Text.includes_iff.1 hsome
  obtain ⟨c, t, hv, hc⟩ := h u (':' :: v) (by rw [← hs]; simp)
  cases hv
  exact hc rfl

theorem ColonsApart.splitOnce?_append {s : Text} (h : ColonsApart s) (t : Text) :
    Text.splitOnce? [':', ':'] (s ++ ([':', ':'] ++ t)) = some (s, t) := by
  refine Text.splitOnce?_of_first fun u v hs hv hp => ?_
  obtain ⟨c, v, rfl⟩ := List.exists_cons_of_ne_nil hv
  rw [List.cons_append, List.cons_prefix_cons] at hp
  obtain ⟨rfl, hp⟩ := hp
  obtain ⟨d, w, rfl, hd⟩ := h u v hs
  exact hd (List.cons_prefix_cons.1 hp).1.symm

/-- Pieces `start` and following, as many as `count`, are zero. -/
def AreZeros (ps : List Nat) (start count : Nat) : Prop :=
  (ps.drop start).take count = List.replicate count 0

theorem take_leadingZeros (ps : List Nat) :
    ps.take (leadingZeros ps) = List.replicate (leadingZeros ps) 0 := by
  have htake : ps.take (leadingZeros ps) = ps.takeWhile (· == 0) :=
    List.prefix_iff_eq_take.1 (List.takeWhile_prefix _) |>.symm
  rw [htake, List.eq_replicate_iff]
  refine ⟨rfl, fun n hn => ?_⟩
  simpa using List.mem_takeWhile_imp hn

theorem areZeros_longestZeros (ps : List Nat) :
    AreZeros ps (longestZeros ps).1 (longestZeros ps).2 := by
  unfold longestZeros
  generalize List.range ps.length = is
  have hstart : AreZeros ps (0, 0).1 (0, 0).2 := rfl
  generalize ((0, 0) : Nat × Nat) = found at hstart ⊢
  induction is generalizing found with
  | nil => exact hstart
  | cons i is ih =>
    rw [List.foldl_cons]
    refine ih _ ?_
    dsimp only
    split_ifs
    · exact take_leadingZeros (ps.drop i)
    · exact hstart

theorem forall_mem_colons {P : Char → Prop} (hcolon : P ':')
    (hhex : ∀ c, (Text.digitValue? 16 c).isSome = true → P c) (ps : List Nat) :
    ∀ c ∈ colons ps, P c := by
  refine Text.forall_mem_intercalate (List.forall_mem_singleton.2 hcolon) fun l hl c hc => ?_
  obtain ⟨n, -, rfl⟩ := List.mem_map.1 hl
  exact hhex c (isDigit_of_mem_hex hc)

theorem dot_notMem_colons (ps : List Nat) : '.' ∉ colons ps := fun hdot =>
  forall_mem_colons (P := (· ≠ '.')) (by decide) (by
    rintro c hc rfl
    cases hc) ps '.' hdot rfl

/-- The inside of a written IPv6 address is read as its pieces. -/
theorem address?_compressed {ps : List Nat} (hps : ArePieces ps) :
    address? (compressed ps) = some ps := by
  unfold compressed
  have hzeros := areZeros_longestZeros ps
  split
  next h =>
    have hne : ps ≠ [] := by
      rintro rfl
      exact absurd hps.length (by decide)
    unfold address?
    rw [(colonsApart_colons ps).splitOnce?_eq_none]
    dsimp only
    rw [pieces?_colons hne hps.bound le_rfl, Option.filter_some, if_pos]
    rw [hps.length]
    rfl
  next start count hcount h =>
    rw [h] at hzeros
    have hlength := congrArg List.length hzeros
    rw [List.length_take, List.length_drop, List.length_replicate, hps.length] at hlength
    have hpos : count ≠ 0 := hcount
    dsimp only at hlength
    -- The pieces that are left out are zeros, so those on either side tell all of them.
    have hwhole : ps.take start ++ List.replicate count 0 ++ ps.drop (start + count) = ps := by
      rw [← hzeros, List.append_assoc, ← List.drop_drop, List.take_append_drop,
        List.take_append_drop]
    have hfront := fun p hp => hps.bound p (List.mem_of_mem_take (i := start) hp)
    have hback := fun p hp => hps.bound p (List.mem_of_mem_drop (i := start + count) hp)
    have hdot : ¬ (colons (ps.take start)).elem '.' = true := by
      rw [List.elem_iff]
      exact dot_notMem_colons _
    unfold address?
    rw [List.append_assoc, (colonsApart_colons _).splitOnce?_append]
    dsimp only
    rw [side?_colons hfront, side?_colons hback]
    simp only [Option.bind_eq_bind, Option.bind_some]
    have hlong : ¬ (ps.take start).length + (ps.drop (start + count)).length > 7 := by
      rw [List.length_take, List.length_drop, hps.length]
      omega
    have hleft : 8 - (ps.take start).length - (ps.drop (start + count)).length = count := by
      rw [List.length_take, List.length_drop, hps.length]
      omega
    rw [if_neg hdot, if_neg hlong, hleft, hwhole]

theorem ipv6_compressed {ps : List Nat} (hps : ArePieces ps) :
    ipv6 (compressed ps ++ [']']) = .ok (ipv6Text ps) := by
  unfold ipv6
  rw [List.getLast?_concat, List.dropLast_concat, address?_compressed hps]
  rfl

/-- A number has at most as many digits as it is written with. -/
theorem readDigits_lt {base acc n : Nat} {s : Text} (h : Text.readDigits base acc s = some n) :
    n < (acc + 1) * base ^ s.length := by
  induction s generalizing acc with
  | nil =>
    cases h
    simp
  | cons c s ih =>
    rw [Text.readDigits, List.foldlM_cons] at h
    obtain ⟨next, hnext, hrest⟩ := Option.bind_eq_some_iff.1 h
    obtain ⟨v, hv, rfl⟩ := Option.map_eq_some_iff.1 hnext
    have hdigit : v < base := by
      unfold Text.digitValue? at hv
      exact of_decide_eq_true (Option.filter_eq_some_iff.1 hv).2
    calc n < (acc * base + v + 1) * base ^ s.length := ih hrest
      _ ≤ ((acc + 1) * base) * base ^ s.length := Nat.mul_le_mul_right _ (by
        rw [Nat.add_mul]
        omega)
      _ = (acc + 1) * base ^ (c :: s).length := by
        rw [List.length_cons, Nat.pow_succ', Nat.mul_assoc]

theorem piece_lt (s : Text) : (piece s).1 < 65536 := by
  unfold piece
  dsimp only
  generalize hdigits : (s.take 4).takeWhile (fun c => (Text.digitValue? 16 c).isSome) = digits
  have hlength : digits.length ≤ 4 := by
    rw [← hdigits]
    exact (List.takeWhile_prefix _).length_le.trans (List.length_take_le 4 s)
  cases hvalue : Text.digits? 16 digits with
  | none => decide
  | some n =>
    have hne : digits ≠ [] := by
      rintro rfl
      cases hvalue
    rw [Text.digits?_eq_readDigits hne] at hvalue
    calc n < (0 + 1) * 16 ^ digits.length := readDigits_lt hvalue
      _ ≤ 16 ^ 4 := by
        rw [Nat.zero_add, Nat.one_mul]
        exact Nat.pow_le_pow_right (by decide) hlength

theorem embedded?_lt {s : Text} {ps : List Nat} (h : embedded? s = some ps) :
    ∀ p ∈ ps, p < 65536 := by
  unfold embedded? at h
  rw [Option.bind_eq_bind, Option.bind_eq_some_iff] at h
  obtain ⟨bytes, hbytes, h⟩ := h
  have hlt : ∀ b ∈ bytes, b ≤ 255 := fun b hb => by
    obtain ⟨part, -, hpart⟩ := Domain.exists_of_mem_mapM hbytes b hb
    split_ifs at hpart
    exact of_decide_eq_true (Option.filter_eq_some_iff.1 hpart).2
  split at h
  next a b c d =>
    cases h
    simp only [List.forall_mem_cons] at hlt
    exact List.forall_mem_cons.2 ⟨by omega, List.forall_mem_singleton.2 (by omega)⟩
  next => cases h

theorem pieces?_lt {fuel : Nat} {s : Text} {ps : List Nat} (h : pieces? fuel s = some ps) :
    ∀ p ∈ ps, p < 65536 := by
  induction fuel generalizing s ps with
  | zero => cases h
  | succ fuel ih =>
    have hpiece := piece_lt s
    rw [pieces?] at h
    dsimp only at h
    split_ifs at h
    split at h
    · cases h
      exact List.forall_mem_singleton.2 hpiece
    · obtain ⟨rest, hrest, rfl⟩ := Option.map_eq_some_iff.1 h
      exact List.forall_mem_cons.2 ⟨hpiece, ih hrest⟩
    · exact embedded?_lt h
    · cases h

theorem side?_lt {s : Text} {ps : List Nat} (h : side? s = some ps) : ∀ p ∈ ps, p < 65536 := by
  unfold side? at h
  split_ifs at h
  · cases h
    exact List.forall_mem_nil _
  · exact pieces?_lt h

theorem arePieces_of_address? {s : Text} {ps : List Nat} (h : address? s = some ps) :
    ArePieces ps := by
  unfold address? at h
  split at h
  · obtain ⟨hpieces, hlength⟩ := Option.filter_eq_some_iff.1 h
    exact ⟨by simpa using hlength, pieces?_lt hpieces⟩
  next before after _ =>
    simp only [Option.bind_eq_bind, Option.bind_eq_some_iff] at h
    obtain ⟨front, hfront, back, hback, h⟩ := h
    split_ifs at h with hdot hlong
    cases h
    constructor
    · simp only [List.length_append, List.length_replicate]
      omega
    · refine List.forall_mem_append.2 ⟨List.forall_mem_append.2 ⟨side?_lt hfront, ?_⟩,
        side?_lt hback⟩
      intro p hp
      rw [List.eq_of_mem_replicate hp]
      decide

theorem exists_of_ipv6 {t : Text} (h : ipv6 s = .ok t) :
    ∃ ps, ArePieces ps ∧ t = ipv6Text ps := by
  unfold ipv6 at h
  split at h
  · split at h
    next ps hps =>
      cases h
      exact ⟨ps, arePieces_of_address? hps, rfl⟩
    · cases h
  · cases h

end Extraction.Url.Host
