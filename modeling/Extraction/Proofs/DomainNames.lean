import Extraction.Proofs.Outcomes
import Extraction.Proofs.PunycodeLabels
import Extraction.Url.Domain

/-!
# Domain names in ASCII

The ASCII form of a domain name is its own ASCII form.

## Main definitions

* `Domain.IsAscii`: a text of ASCII characters that a domain name may hold

## Main statements

* `Domain.labelToAscii?_of_labelToAscii?`: the ASCII form of a label stays
* `Domain.toAscii?_of_toAscii?`: the ASCII form of a domain name stays
-/

namespace Extraction.Url.Domain

variable {label l s t name : Text}

/-- Every character is an ASCII character that a domain name may hold. -/
def IsAscii (s : Text) : Prop := ∀ c ∈ s, c.toNat < 128 ∧ isAllowed c = true

theorem isAscii_append : IsAscii (s ++ t) ↔ IsAscii s ∧ IsAscii t := List.forall_mem_append

namespace IsAscii

theorem all (h : IsAscii s) : s.all (·.toNat < 128) = true :=
  List.all_eq_true.2 fun c hc => decide_eq_true (h c hc).1

theorem of_all (hlow : s.all (·.toNat < 128) = true) (h : ∀ c ∈ s, isAllowed c = true) :
    IsAscii s :=
  fun c hc => ⟨of_decide_eq_true (List.all_eq_true.1 hlow c hc), h c hc⟩

theorem not_forbidden_not_upper (h : IsAscii s) {c : Char} (hc : c ∈ s) :
    isForbidden c = false ∧ c.isUpper = false := by
  obtain ⟨hlow, hallowed⟩ := h c hc
  rw [isAllowed, if_pos hlow] at hallowed
  simpa using hallowed

theorem mapped (h : IsAscii s) : mapped s = s := by
  rw [Domain.mapped, if_pos h.all]
  exact Text.lowerAscii_eq_self fun c hc => (h.not_forbidden_not_upper hc).2

end IsAscii

theorem allowed_digit : ∀ d < 36, ((Punycode.digit d).toNat < 128 ∧
    isAllowed (Punycode.digit d) = true) ∧ Punycode.digit d ≠ '.' := by
  decide

/-- What Punycode writes for a well-formed label may stand in a domain name. -/
theorem isAscii_encode (h : isLabel label = true) :
    IsAscii (Punycode.encode label) ∧ '.' ∉ Punycode.encode label := by
  have hlabel : ∀ c ∈ label, isAllowed c = true ∧ c ≠ '.' := by
    unfold isLabel at h
    simp only [Bool.and_eq_true, List.all_eq_true] at h
    intro c hc
    simpa using h.1.1.2 c hc
  have hbasic : ∀ c ∈ Punycode.basicText label,
      (c.toNat < 128 ∧ isAllowed c = true) ∧ c ≠ '.' := fun c hc => by
    obtain ⟨hc, hlow⟩ := List.mem_filter.1 hc
    exact ⟨⟨of_decide_eq_true hlow, (hlabel c hc).1⟩, (hlabel c hc).2⟩
  have hopening : ∀ c ∈ Punycode.opening label,
      (c.toNat < 128 ∧ isAllowed c = true) ∧ c ≠ '.' := fun c hc => by
    unfold Punycode.opening at hc
    split_ifs at hc
    · exact (List.not_mem_nil hc).elim
    · rcases List.mem_append.1 hc with hc | hc
      · exact hbasic c hc
      · rw [List.mem_singleton.1 hc]
        decide
  obtain ⟨s, hs, hdigits⟩ := Punycode.exists_digits_encode label
  have hall : ∀ c ∈ Punycode.encode label, (c.toNat < 128 ∧ isAllowed c = true) ∧ c ≠ '.' := by
    rw [hs]
    refine List.forall_mem_append.2 ⟨hopening, fun c hc => ?_⟩
    obtain ⟨d, hd, rfl⟩ := hdigits c hc
    exact allowed_digit d hd
  exact ⟨fun c hc => (hall c hc).1, fun hdot => (hall '.' hdot).2 rfl⟩

/-- The mark in front of a label in Punycode. -/
def punycodeMark : Text := "xn--".toList

theorem isAscii_mark_append (h : IsAscii s ∧ '.' ∉ s) :
    IsAscii (punycodeMark ++ s) ∧ '.' ∉ punycodeMark ++ s := by
  have hmark : ∀ c ∈ punycodeMark, (c.toNat < 128 ∧ isAllowed c = true) ∧ c ≠ '.' := by
    decide
  refine ⟨isAscii_append.2 ⟨fun c hc => (hmark c hc).1, h.1⟩, fun hdot => ?_⟩
  rcases List.mem_append.1 hdot with hdot | hdot
  · exact (hmark '.' hdot).2 rfl
  · exact h.2 hdot

/-- The ways in which a label has an ASCII form. -/
theorem labelToAscii?_eq_some (h : labelToAscii? label = some l) :
    (l = label ∧ label.all (·.toNat < 128) = true ∧
      ((∃ s, label = punycodeMark ++ Punycode.encode s ∧ isLabel s = true) ∨
        ∀ c ∈ label, isAllowed c = true)) ∨
    (l = punycodeMark ++ Punycode.encode label ∧ label.all (·.toNat < 128) = false ∧
      label.length ≤ maxLabelLength ∧ isLabel label = true) := by
  unfold labelToAscii? at h
  split at h
  next code hcode =>
    split_ifs at h with hlow
    rw [Option.bind_eq_some_iff] at h
    obtain ⟨s, -, h⟩ := h
    split_ifs at h with hs
    simp only [Bool.and_eq_true, beq_iff_eq] at hs
    cases h
    refine .inl ⟨rfl, hlow, .inl ⟨s, ?_, hs.1.2⟩⟩
    rw [hs.2]
    exact Text.isPrefixOf?_eq_some_iff.1 hcode
  next =>
    split_ifs at h with hlow hallowed hlabel
    · cases h
      exact .inl ⟨rfl, hlow, .inr (List.all_eq_true.1 hallowed)⟩
    · cases h
      rw [Bool.and_eq_true, decide_eq_true_iff] at hlabel
      exact .inr ⟨rfl, Bool.not_eq_true _ ▸ hlow, hlabel⟩

theorem isAscii_of_labelToAscii? (hdot : '.' ∉ label) (h : labelToAscii? label = some l) :
    IsAscii l ∧ '.' ∉ l := by
  rcases labelToAscii?_eq_some h with ⟨rfl, hlow, ⟨s, hs, hlabel⟩ | hallowed⟩ | ⟨rfl, -, -, hlabel⟩
  · rw [hs]
    exact isAscii_mark_append (isAscii_encode hlabel)
  · exact ⟨.of_all hlow hallowed, hdot⟩
  · exact isAscii_mark_append (isAscii_encode hlabel)

/-- The ASCII form of a label stays. -/
theorem labelToAscii?_of_labelToAscii? (h : labelToAscii? label = some l) :
    labelToAscii? l = some l := by
  rcases labelToAscii?_eq_some h with ⟨rfl, -, -⟩ | ⟨rfl, hlow, hlength, hlabel⟩
  · exact h
  · have hascii := (isAscii_mark_append (isAscii_encode hlabel)).1.all
    unfold labelToAscii?
    rw [show "xn--".toList = punycodeMark from rfl, Text.isPrefixOf?_append]
    dsimp only
    rw [if_pos hascii, Punycode.decode?_encode hlength, Option.bind_some, hlow, hlabel, if_pos]
    simp

theorem mapM_eq_some_iff {α β : Type} {f : α → Option β} {xs : List α} {ys : List β} :
    xs.mapM f = some ys ↔ List.Forall₂ (fun x y => f x = some y) xs ys := by
  induction xs generalizing ys with
  | nil =>
    rw [List.mapM_nil, List.forall₂_nil_left_iff]
    exact Option.some_inj.trans eq_comm
  | cons x xs ih =>
    rw [List.mapM_cons, List.forall₂_cons_left_iff]
    simp only [Option.bind_eq_bind, Option.bind_eq_some_iff, ih]
    constructor
    · rintro ⟨y, hy, ys, hys, h⟩
      cases h
      exact ⟨y, ys, hy, hys, rfl⟩
    · rintro ⟨y, ys, hy, hys, rfl⟩
      exact ⟨y, hy, ys, hys, rfl⟩

theorem exists_of_mem_mapM {α β : Type} {f : α → Option β} {xs : List α} {ys : List β}
    (h : xs.mapM f = some ys) : ∀ y ∈ ys, ∃ x ∈ xs, f x = some y :=
  exists_of_mem_forall₂ (mapM_eq_some_iff.1 h)

/-- The ASCII form of a domain name stays, and holds only what a domain name may hold. -/
theorem toAscii?_of_toAscii? (h : toAscii? s = some name) :
    IsAscii name ∧ toAscii? name = some name := by
  unfold toAscii? at h
  rw [Option.map_eq_some_iff] at h
  obtain ⟨ls, hls, rfl⟩ := h
  have hlabels : ∀ l ∈ ls, (IsAscii l ∧ '.' ∉ l) ∧ labelToAscii? l = some l := fun l hl => by
    obtain ⟨label, hlabel, hform⟩ := exists_of_mem_mapM hls l hl
    exact ⟨isAscii_of_labelToAscii? (Text.notMem_of_mem_splitOn hlabel) hform,
      labelToAscii?_of_labelToAscii? hform⟩
  have hne : ls ≠ [] := fun hnil => by
    have hempty := mapM_eq_some_iff.1 hls
    rw [hnil, List.forall₂_nil_right_iff] at hempty
    exact Text.splitOn_ne_nil '.' _ hempty
  have hascii : IsAscii (['.'].intercalate ls) :=
    Text.forall_mem_intercalate (by decide) fun l hl => (hlabels l hl).1.1
  refine ⟨hascii, ?_⟩
  unfold toAscii?
  rw [hascii.mapped, Text.splitOn_intercalate hne fun l hl => (hlabels l hl).1.2,
    mapM_eq_some_iff.2 (List.forall₂_same.2 fun l hl => (hlabels l hl).2), Option.map_some]

end Extraction.Url.Domain
