import Extraction.Proofs.NumericHosts
import Extraction.Proofs.TextBytes

/-!
# Written hosts

A host that has been read is in its written form, so reading it again changes nothing.

## Main definitions

* `Host.IsHost`: a host in its written form, as it stands in an authority

## Main statements

* `forall_mem_percentEncode`: what percent encoding leaves in a text
* `Host.read_of_read`: a host of a special address is read back
* `Host.readOpaque_of_readOpaque`: a host of any other address is read back
-/

namespace Extraction

namespace Url

/-! ### Percent encoding -/

section Percent

variable {forbidden : Char → Bool} {s : Text}

/-- Bytes with no percent sign among them are decoded already. -/
theorem percentDecode_of_notMem {bs : List Nat} (h : 37 ∉ bs) : percentDecode bs = bs := by
  fun_induction percentDecode bs with
  | case1 => exact (h List.mem_cons_self).elim
  | case2 => exact (h List.mem_cons_self).elim
  | case3 b rest _ ih => rw [ih fun hmem => h (List.mem_cons_of_mem b hmem)]
  | case4 => rfl

/-- What is percent-encoded holds percent signs, digits and characters of the text that need not
be encoded. -/
theorem forall_mem_percentEncode {P : Char → Prop} (hpercent : P '%')
    (hdigit : ∀ d < 16, P (hexDigit d))
    (hplain : ∀ c ∈ s, 0x20 ≤ c.toNat → c.toNat < 0x7F → forbidden c = false → P c) :
    ∀ c ∈ percentEncode forbidden s, P c := by
  intro c hc
  obtain ⟨d, hd, hc⟩ := List.mem_flatMap.1 hc
  split_ifs at hc with hbad
  · obtain ⟨b, hb, hc⟩ := List.mem_flatMap.1 hc
    have hlt := Utf8.lt_of_mem_encodeChar hb
    simp only [percentByte, List.mem_cons, List.not_mem_nil, or_false] at hc
    rcases hc with rfl | rfl | rfl
    · exact hpercent
    · exact hdigit _ (by omega)
    · exact hdigit _ (by omega)
  · rw [List.mem_singleton.1 hc]
    simp only [Bool.or_eq_true, decide_eq_true_eq, not_or, not_lt, not_le, Bool.not_eq_true] at hbad
    exact hplain d hd hbad.1.1 hbad.1.2 hbad.2

theorem percentEncode_eq_self
    (h : ∀ c ∈ s, 0x20 ≤ c.toNat ∧ c.toNat < 0x7F ∧ forbidden c = false) :
    percentEncode forbidden s = s := by
  unfold percentEncode
  refine (List.flatMap_congr fun c hc => if_neg ?_).trans (List.flatMap_singleton' s)
  obtain ⟨hlow, hhigh, hfree⟩ := h c hc
  simp only [hfree, Bool.or_false, Bool.or_eq_true, decide_eq_true_eq]
  omega

end Percent

end Url

namespace Url.Host

variable {name s h : Text}

/-! ### Hosts -/

/-- Whether a character is visible ASCII. -/
def IsVisible (c : Char) : Prop := 0x20 < c.toNat ∧ c.toNat < 0x7F

instance (c : Char) : Decidable (IsVisible c) := inferInstanceAs (Decidable (_ ∧ _))

/-- The characters that end an authority or its user part. -/
def authorityMarks : Text := ['/', '\\', '?', '#', '@']

/-- The characters that a host may only have around it, with those that end an authority. -/
def hostMarks : Text := '[' :: ']' :: authorityMarks

/-- A host in its written form, as it stands in an authority. -/
inductive IsHost : Text → Prop where
  | plain {h : Text} (hchars : ∀ c ∈ h, IsVisible c ∧ c ∉ ':' :: hostMarks) : IsHost h
  | bracketed {inner : Text} (hchars : ∀ c ∈ inner, IsVisible c ∧ c ∉ hostMarks) :
      IsHost ('[' :: inner ++ [']'])

theorem notMem_of_all {p : Char → Bool} {marks : Text} (hmarks : marks.all p = true) {c : Char}
    (hc : p c = false) : c ∉ marks := fun hmem => by
  rw [List.all_eq_true.1 hmarks c hmem] at hc
  cases hc

theorem isHost_of_isAscii (hs : Domain.IsAscii s) : IsHost s := by
  refine .plain fun c hc => ⟨?_, notMem_of_all rfl (hs.not_forbidden_not_upper hc).1⟩
  have hlow := (hs c hc).1
  have hforbidden := (hs.not_forbidden_not_upper hc).1
  simp only [Domain.isForbidden, Bool.or_eq_false_iff, decide_eq_false_iff_not, not_le,
    beq_eq_false_iff_ne] at hforbidden
  exact ⟨hforbidden.1.1, by omega⟩

theorem isVisible_of_hex {c : Char} (hc : (Text.digitValue? 16 c).isSome = true) :
    IsVisible c ∧ c ∉ hostMarks := by
  refine ⟨?_, notMem_of_all (p := fun d => (Text.digitValue? 16 d).isNone) rfl ?_⟩
  · obtain ⟨v, hv⟩ := Option.isSome_iff_exists.1 hc
    unfold Text.digitValue? at hv
    obtain ⟨hv, -⟩ := Option.filter_eq_some_iff.1 hv
    simp only [Char.le_def, UInt32.le_iff_toNat_le] at hv
    split_ifs at hv with h h h
    all_goals exact ⟨lt_of_lt_of_le (by decide) h.1, lt_of_le_of_lt h.2 (by decide)⟩
  · rw [Option.isNone_eq_false_iff]
    exact hc

theorem isHost_ipv6Text (ps : List Nat) : IsHost (ipv6Text ps) := by
  have hcolons : ∀ ps, ∀ c ∈ colons ps, IsVisible c ∧ c ∉ hostMarks :=
    forall_mem_colons (by decide) fun c hc => isVisible_of_hex hc
  refine .bracketed ?_
  unfold compressed
  split
  · exact hcolons ps
  · exact List.forall_mem_append.2
      ⟨List.forall_mem_append.2 ⟨hcolons _, by decide⟩, hcolons _⟩

/-- A host that is its own ASCII form is a name, or an IPv4 address if it ends in a number. -/
theorem read_of_isAscii (hs : Domain.IsAscii s) (hsame : Domain.toAscii? s = some s)
    (hne : s ≠ []) : read s = if endsInNumber s then ipv4 s else .ok s := by
  have hlow : ∀ c ∈ s, c.toNat < 128 := fun c hc => (hs c hc).1
  have hfree {c : Char} (hc : Domain.isForbidden c = true) : c ∉ s := fun hmem => by
    rw [(hs.not_forbidden_not_upper hmem).1] at hc
    cases hc
  have hpercent : 37 ∉ s.map Char.toNat := fun hmem => by
    obtain ⟨c, hc, hnat⟩ := List.mem_map.1 hmem
    obtain rfl : c = '%' := Char.toNat_inj.1 hnat
    exact hfree rfl hc
  have hbytes : Utf8.decode (percentDecode (Utf8.encode s)) = s := by
    rw [Utf8.encode_of_ascii hlow, percentDecode_of_notMem hpercent, Utf8.decode_of_ascii hlow]
  unfold read
  split
  · exact (hfree rfl List.mem_cons_self).elim
  · obtain ⟨c, t, rfl⟩ := List.exists_cons_of_ne_nil hne
    simp only [hbytes, hsame]

theorem labelToAscii?_ofNat : ∀ n < 256,
    Domain.labelToAscii? (Text.ofNat n) = some (Text.ofNat n) := by
  decide +kernel

theorem isAscii_ipv4Text {address : Nat} (haddress : address < 4294967296) :
    Domain.IsAscii (ipv4Text address) := by
  refine Text.forall_mem_intercalate (by decide) fun l hl => ?_
  obtain ⟨n, hn, rfl⟩ := List.mem_map.1 hl
  have hlabel := labelToAscii?_ofNat n (lt_of_mem_bytes haddress n hn)
  exact (Domain.isAscii_of_labelToAscii? (dot_notMem_ofNat n) hlabel).1

theorem toAscii?_ipv4Text {address : Nat} (haddress : address < 4294967296) :
    Domain.toAscii? (ipv4Text address) = some (ipv4Text address) := by
  have hlabels : ((bytes address).map Text.ofNat).mapM Domain.labelToAscii? =
      some ((bytes address).map Text.ofNat) := by
    rw [Domain.mapM_eq_some_iff, List.forall₂_map_left_iff, List.forall₂_map_right_iff,
      List.forall₂_same]
    exact fun n hn => labelToAscii?_ofNat n (lt_of_mem_bytes haddress n hn)
  unfold Domain.toAscii?
  rw [(isAscii_ipv4Text haddress).mapped, splitOn_ipv4Text, hlabels]
  rfl

theorem ipv4Text_ne_nil (address : Nat) : ipv4Text address ≠ [] := by
  refine Text.intercalate_ne_nil (fun l hl => ?_) (List.cons_ne_nil _ _)
  obtain ⟨n, -, rfl⟩ := List.mem_map.1 hl
  exact Nat.toDigits_ne_nil

theorem read_ipv4Text {address : Nat} (haddress : address < 4294967296) :
    read (ipv4Text address) = .ok (ipv4Text address) := by
  rw [read_of_isAscii (isAscii_ipv4Text haddress) (toAscii?_ipv4Text haddress)
    (ipv4Text_ne_nil address), if_pos (endsInNumber_ipv4Text address), ipv4_ipv4Text haddress]

/-- What a host of a special address is read as is read as itself. -/
theorem read_of_read (hs : read s = .ok name) : read name = .ok name ∧ name ≠ [] ∧ IsHost name := by
  unfold read at hs
  split at hs
  · obtain ⟨ps, hps, rfl⟩ := exists_of_ipv6 hs
    exact ⟨ipv6_compressed hps, List.cons_ne_nil _ _, isHost_ipv6Text ps⟩
  · split at hs
    · cases hs
    · cases hs
    next domain hne hdomain =>
      obtain ⟨hascii, hsame⟩ := Domain.toAscii?_of_toAscii? hdomain
      split_ifs at hs with hnumber
      · obtain ⟨numbers, last, hbytes, rfl⟩ := exists_of_ipv4 hs
        have hlt := ipv4Value_lt hbytes
        exact ⟨read_ipv4Text hlt, ipv4Text_ne_nil _, isHost_of_isAscii (isAscii_ipv4Text hlt)⟩
      · cases hs
        have hread := read_of_isAscii hascii hsame hne
        rw [if_neg hnumber] at hread
        exact ⟨hread, hne, isHost_of_isAscii hascii⟩

section Opaque

variable (hs : ∀ c ∈ s, (0x20 ≤ c.toNat ∧ c.toNat < 0x7F) ∧ isHostMark c = false)

include hs

theorem readOpaque_of_notMark : readOpaque s = .ok s := by
  have hsame : percentEncode forbiddenOpaque s = s :=
    percentEncode_eq_self fun c hc => ⟨(hs c hc).1.1, (hs c hc).1.2, rfl⟩
  unfold readOpaque
  split
  · have hmark := (hs '[' List.mem_cons_self).2
    cases hmark
  · rw [if_neg, hsame]
    rw [List.any_eq_true]
    rintro ⟨c, hc, hmark⟩
    rw [(hs c hc).2] at hmark
    cases hmark

theorem isHost_of_notMark : IsHost s := by
  refine .plain fun c hc => ?_
  obtain ⟨⟨hlow, hhigh⟩, hmark⟩ := hs c hc
  have hspace : c.toNat ≠ 0x20 := fun hnat => by
    rw [show c = ' ' from Char.toNat_inj.1 hnat] at hmark
    cases hmark
  exact ⟨⟨by omega, hhigh⟩, notMem_of_all rfl hmark⟩

end Opaque

/-- What a host of another address is read as is read as itself. -/
theorem readOpaque_of_readOpaque (hs : readOpaque s = .ok name) :
    readOpaque name = .ok name ∧ IsHost name := by
  unfold readOpaque at hs
  split at hs
  · obtain ⟨ps, hps, rfl⟩ := exists_of_ipv6 hs
    exact ⟨ipv6_compressed hps, isHost_ipv6Text ps⟩
  · split_ifs at hs with hbad
    cases hs
    rw [List.any_eq_true, not_exists] at hbad
    have hchars : ∀ c ∈ percentEncode forbiddenOpaque s,
        (0x20 ≤ c.toNat ∧ c.toNat < 0x7F) ∧ isHostMark c = false :=
      forall_mem_percentEncode (by decide) (by decide) fun c hc hlow hhigh _ =>
        ⟨⟨hlow, hhigh⟩, Bool.not_eq_true _ ▸ fun hmark => hbad c ⟨hc, hmark⟩⟩
    exact ⟨readOpaque_of_notMark hchars, isHost_of_notMark hchars⟩

end Url.Host
end Extraction
