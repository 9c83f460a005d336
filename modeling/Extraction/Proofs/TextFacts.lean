import Extraction.Text.Basic
import Mathlib.Data.List.DropRight
import Mathlib.Data.List.Infix
import Mathlib.Data.List.TakeWhile

/-!
# What the operations on text do

The operations that cut and trim texts, said by what they leave of a text that is put together from
known parts.
-/

namespace Extraction.Text

/-- What holds of all characters in a text is decided by going through the text. Without the
priority a search through all the characters that there are could be taken instead. -/
instance (priority := 2000) decidableForallMem (s : Text) (p : Char → Prop) [DecidablePred p] :
    Decidable (∀ c ∈ s, p c) :=
  List.decidableBAll p s

/-! ### Prefixes and occurrences -/

theorem isPrefixOf?_eq_some_iff {p s rest : Text} :
    p.isPrefixOf? s = some rest ↔ s = p ++ rest := by
  induction p generalizing s with
  | nil => exact ⟨fun h => Option.some.inj h, fun h => congrArg some h⟩
  | cons a p ih =>
    cases s with
    | nil => exact ⟨fun h => (by cases h), fun h => (by cases h)⟩
    | cons b s =>
      have hstep : (a :: p).isPrefixOf? (b :: s) =
          if a == b then p.isPrefixOf? s else none := rfl
      rw [hstep]
      by_cases hab : a = b
      · subst hab
        rw [if_pos (beq_self_eq_true a), ih, List.cons_append, List.cons_inj_right]
      · rw [if_neg (by simpa using hab)]
        refine ⟨fun h => (by cases h), fun h => ?_⟩
        exact (hab (List.cons.inj h).1.symm).elim

theorem isPrefixOf?_append (p rest : Text) : p.isPrefixOf? (p ++ rest) = some rest :=
  isPrefixOf?_eq_some_iff.2 rfl

theorem isPrefixOf?_eq_none_iff {p s : Text} : p.isPrefixOf? s = none ↔ ¬ p <+: s := by
  constructor
  · rintro h ⟨rest, rfl⟩
    rw [isPrefixOf?_append] at h
    cases h
  · intro h
    cases hp : p.isPrefixOf? s with
    | none => rfl
    | some rest => exact (h ⟨rest, (isPrefixOf?_eq_some_iff.1 hp).symm⟩).elim

/-- A text includes another one exactly if that stands somewhere in it. -/
theorem includes_iff {s needle : Text} : includes s needle = true ↔ needle <:+: s := by
  unfold includes
  fun_induction splitOnce? needle s with
  | case1 s rest h =>
    rw [isPrefixOf?_eq_some_iff] at h
    exact ⟨fun _ => h ▸ (List.prefix_append needle rest).isInfix, fun _ => rfl⟩
  | case2 h =>
    rw [isPrefixOf?_eq_none_iff] at h
    refine ⟨fun h => (by cases h), fun hin => (h ?_).elim⟩
    rw [List.infix_nil.1 hin]
  | case3 c cs h ih =>
    rw [isPrefixOf?_eq_none_iff] at h
    rw [Option.isSome_map, ih, List.infix_cons_iff, or_iff_right h]

theorem not_prefix_of_head_ne {c d : Char} {p t : Text} (h : d ≠ c) : ¬ c :: p <+: d :: t :=
  fun hp => h (List.cons_prefix_cons.1 hp).1.symm

/-- A prefix that goes on with other characters than a text does not reach over its front. -/
theorem prefix_append_iff {p s t : Text} (hs : s ≠ []) (ht : ∀ d ∈ t.head?, d ∉ p.tail) :
    p <+: s ++ t ↔ p <+: s := by
  refine ⟨fun h => ?_, fun h => h.trans (List.prefix_append _ _)⟩
  rcases List.prefix_or_prefix_of_prefix h (List.prefix_append s t) with hp | ⟨rest, rfl⟩
  · exact hp
  · rw [List.prefix_append_right_inj, List.prefix_iff_eq_append] at h
    cases rest with
    | nil => rw [List.append_nil]
    | cons d rest =>
      refine (ht d ?_ ?_).elim
      · rw [← h]
        exact rfl
      · rw [List.tail_append_of_ne_nil hs]
        exact List.mem_append_right _ List.mem_cons_self

/-- What occurs in a text with a foreign character in it occurs before or after that. -/
theorem infix_append_cons_iff {p s t : Text} {d : Char} (hd : d ∉ p) :
    p <:+: s ++ d :: t ↔ p <:+: s ∨ p <:+: t := by
  induction s with
  | nil =>
    rw [List.nil_append, List.infix_cons_iff, List.infix_nil]
    refine or_congr_left ⟨fun h => ?_, fun h => h ▸ List.nil_prefix⟩
    cases p with
    | nil => rfl
    | cons c p => exact (hd ((List.cons_prefix_cons.1 h).1 ▸ List.mem_cons_self)).elim
  | cons c s ih =>
    rw [List.cons_append, List.infix_cons_iff, List.infix_cons_iff, ih, ← or_assoc]
    refine or_congr_left (or_congr_left ?_)
    refine prefix_append_iff (List.cons_ne_nil c s) fun e he => ?_
    obtain rfl : d = e := Option.some.inj he
    exact fun hmem => hd (List.mem_of_mem_tail hmem)

/-- What stands before a suffix is left when the suffix is dropped. -/
theorem dropSuffix?_append (s t : Text) : dropSuffix? t (s ++ t) = some s := by
  rw [dropSuffix?, List.reverse_append, isPrefixOf?_append, Option.map_some, List.reverse_reverse]

/-! ### Letters and digits -/

theorem isDigit_iff {c : Char} : c.isDigit = true ↔ 48 ≤ c.toNat ∧ c.toNat ≤ 57 :=
  Bool.and_eq_true_iff.trans (and_congr decide_eq_true_iff decide_eq_true_iff)

theorem isUpper_iff {c : Char} : c.isUpper = true ↔ 65 ≤ c.toNat ∧ c.toNat ≤ 90 :=
  decide_eq_true_iff

theorem isLower_iff {c : Char} : c.isLower = true ↔ 97 ≤ c.toNat ∧ c.toNat ≤ 122 :=
  Bool.and_eq_true_iff.trans (and_congr decide_eq_true_iff decide_eq_true_iff)

theorem isAlpha_iff {c : Char} : c.isAlpha = true ↔
    (65 ≤ c.toNat ∧ c.toNat ≤ 90) ∨ 97 ≤ c.toNat ∧ c.toNat ≤ 122 :=
  Bool.or_eq_true_iff.trans (or_congr isUpper_iff isLower_iff)

theorem isAlphanum_iff {c : Char} : c.isAlphanum = true ↔
    ((65 ≤ c.toNat ∧ c.toNat ≤ 90) ∨ 97 ≤ c.toNat ∧ c.toNat ≤ 122) ∨
      48 ≤ c.toNat ∧ c.toNat ≤ 57 :=
  Bool.or_eq_true_iff.trans (or_congr isAlpha_iff isDigit_iff)

/-! ### Letter case -/

theorem toLower_of_not_upper {c : Char} (hc : ¬ (65 ≤ c.toNat ∧ c.toNat ≤ 90)) : c.toLower = c := by
  unfold Char.toLower
  exact dif_neg hc

theorem toLower_of_isBlank {c : Char} (hc : isBlank c = true) : c.toLower = c := by
  simp only [isBlank, Bool.or_eq_true, Bool.and_eq_true, decide_eq_true_eq, beq_iff_eq] at hc
  exact toLower_of_not_upper (by omega)

theorem toLower_of_isDigit {c : Char} (hc : c.isDigit = true) : c.toLower = c := by
  rw [isDigit_iff] at hc
  exact toLower_of_not_upper (by omega)

theorem lowerAscii_eq_self {s : Text} (h : ∀ c ∈ s, c.isUpper = false) : lowerAscii s = s := by
  have hsame : ∀ c ∈ s, c.toLower = c := fun c hc =>
    toLower_of_not_upper (of_decide_eq_false (h c hc))
  exact (List.map_congr_left hsame).trans (List.map_id s)

theorem dropPrefixIgnoreCase?_isSome_iff {p s : Text} :
    (dropPrefixIgnoreCase? p s).isSome ↔ lowerAscii p <+: lowerAscii s := by
  induction p generalizing s with
  | nil => simp [dropPrefixIgnoreCase?, lowerAscii]
  | cons a p ih =>
    cases s with
    | nil => simp [dropPrefixIgnoreCase?, lowerAscii]
    | cons c s =>
      rw [dropPrefixIgnoreCase?, lowerAscii, lowerAscii, List.map_cons, List.map_cons,
        List.cons_prefix_cons]
      by_cases hac : a.toLower = c.toLower
      · rw [if_pos (beq_iff_eq.2 hac), ih]
        exact ⟨fun h => ⟨hac, h⟩, And.right⟩
      · rw [if_neg (by simpa using hac)]
        exact ⟨fun h => (by cases h), fun h => (hac h.1).elim⟩

theorem dropPrefixIgnoreCase?_eq_none_iff {p s : Text} :
    dropPrefixIgnoreCase? p s = none ↔ ¬ lowerAscii p <+: lowerAscii s := by
  rw [← dropPrefixIgnoreCase?_isSome_iff, Option.not_isSome_iff_eq_none]

/-- What is dropped is the prefix, in some letter case. -/
theorem exists_of_dropPrefixIgnoreCase? {p s rest : Text}
    (h : dropPrefixIgnoreCase? p s = some rest) :
    ∃ front, s = front ++ rest ∧ lowerAscii front = lowerAscii p := by
  fun_induction dropPrefixIgnoreCase? p s with
  | case1 s =>
    cases h
    exact ⟨[], rfl, rfl⟩
  | case2 a p => cases h
  | case3 a p c s hac ih =>
    obtain ⟨front, rfl, hfront⟩ := ih h
    refine ⟨c :: front, rfl, ?_⟩
    rw [lowerAscii, List.map_cons, ← beq_iff_eq.1 hac]
    exact congrArg (a.toLower :: ·) hfront
  | case4 a p c s hac => cases h

theorem dropPrefixIgnoreCase?_suffix {p s rest : Text}
    (h : dropPrefixIgnoreCase? p s = some rest) : rest <:+ s := by
  obtain ⟨front, rfl, -⟩ := exists_of_dropPrefixIgnoreCase? h
  exact List.suffix_append front rest

theorem includesIgnoreCase_iff {s needle : Text} :
    includesIgnoreCase s needle = true ↔ lowerAscii needle <:+: lowerAscii s := by
  induction s with
  | nil =>
    rw [includesIgnoreCase, Bool.or_false, dropPrefixIgnoreCase?_isSome_iff]
    exact ⟨List.IsPrefix.isInfix, fun h => List.infix_nil.1 h ▸ List.nil_prefix⟩
  | cons c s ih =>
    rw [includesIgnoreCase, Bool.or_eq_true, dropPrefixIgnoreCase?_isSome_iff, ih]
    exact List.infix_cons_iff.symm

theorem isBlank_of_isDigit {c : Char} (hc : c.isDigit = true) : isBlank c = false := by
  rw [isDigit_iff] at hc
  rw [← Bool.not_eq_true]
  simp only [isBlank, Bool.or_eq_true, Bool.and_eq_true, decide_eq_true_eq, beq_iff_eq]
  omega

/-! ### Cutting at a separator -/

/-- The two parts of a text that is cut stand around the separator. -/
theorem eq_of_splitOnce? {sep s before after : Text}
    (h : splitOnce? sep s = some (before, after)) : s = before ++ (sep ++ after) := by
  fun_induction splitOnce? sep s generalizing before after with
  | case1 s rest hp =>
    cases h
    rw [List.nil_append, isPrefixOf?_eq_some_iff.1 hp]
  | case2 => cases h
  | case3 c cs hp ih =>
    obtain ⟨⟨u, v⟩, huv, he⟩ := Option.map_eq_some_iff.1 h
    cases he
    exact congrArg (c :: ·) (ih huv)

/-- The separator does not stand in the part before its first occurrence. -/
theorem not_infix_of_splitOnce? {sep s before after : Text} (hsep : sep ≠ [])
    (h : splitOnce? sep s = some (before, after)) : ¬ sep <:+: before := by
  fun_induction splitOnce? sep s generalizing before after with
  | case1 s rest hp =>
    cases h
    exact fun hin => hsep (List.infix_nil.1 hin)
  | case2 => cases h
  | case3 c cs hp ih =>
    obtain ⟨⟨u, v⟩, huv, he⟩ := Option.map_eq_some_iff.1 h
    cases he
    have hprefix : c :: u <+: c :: cs :=
      ⟨sep ++ after, congrArg (c :: ·) (eq_of_splitOnce? huv).symm⟩
    rw [List.infix_cons_iff, not_or]
    exact ⟨fun hin => isPrefixOf?_eq_none_iff.1 hp (hin.trans hprefix), ih huv⟩

/-- What is found stays found when the text goes on. -/
theorem splitOnce?_append {sep s before after : Text} (t : Text)
    (h : splitOnce? sep s = some (before, after)) :
    splitOnce? sep (s ++ t) = some (before, after ++ t) := by
  fun_induction splitOnce? sep s generalizing before after with
  | case1 s rest hp =>
    simp only [Option.some.injEq, Prod.mk.injEq] at h
    obtain ⟨rfl, rfl⟩ := h
    rw [isPrefixOf?_eq_some_iff] at hp
    rw [hp, List.append_assoc]
    unfold splitOnce?
    rw [isPrefixOf?_append]
  | case2 => cases h
  | case3 c cs hp ih =>
    obtain ⟨⟨u, v⟩, huv, he⟩ := Option.map_eq_some_iff.1 h
    simp only [Prod.mk.injEq] at he
    obtain ⟨rfl, rfl⟩ := he
    have hnone : sep.isPrefixOf? (c :: cs ++ t) = none := by
      rw [isPrefixOf?_eq_none_iff] at hp ⊢
      refine fun hsep => hp (List.prefix_of_prefix_length_le hsep (List.prefix_append _ _) ?_)
      have := length_of_splitOnce? huv
      simp only [List.length_cons]
      omega
    rw [List.cons_append] at hnone ⊢
    unfold splitOnce?
    rw [hnone]
    simp only [ih huv, Option.map_some]

/-- What is found in a part of the text is found in that part alone. -/
theorem splitOnce?_of_append {sep s t before after : Text}
    (h : splitOnce? sep (s ++ t) = some (before, after))
    (hlength : before.length + sep.length ≤ s.length) :
    ∃ after, splitOnce? sep s = some (before, after) := by
  have hprefix : before ++ sep <+: s :=
    List.prefix_of_prefix_length_le ⟨after, by rw [eq_of_splitOnce? h, List.append_assoc]⟩
      (List.prefix_append s t) (by rwa [List.length_append])
  have hin : sep <:+: s := ((List.suffix_append before sep).isInfix).trans hprefix.isInfix
  obtain ⟨⟨u, v⟩, huv⟩ := Option.isSome_iff_exists.1 (includes_iff.2 hin)
  have hsame := (splitOnce?_append t huv).symm.trans h
  cases hsame
  exact ⟨v, huv⟩

/-- A text is cut at a separator that does not occur before. -/
theorem splitOnce?_of_first {sep s t : Text}
    (h : ∀ u v, s = u ++ v → v ≠ [] → ¬ sep <+: v ++ (sep ++ t)) :
    splitOnce? sep (s ++ (sep ++ t)) = some (s, t) := by
  induction s with
  | nil =>
    unfold splitOnce?
    rw [List.nil_append, isPrefixOf?_append]
  | cons c s ih =>
    have hnone := isPrefixOf?_eq_none_iff.2 (h [] (c :: s) rfl (List.cons_ne_nil _ _))
    rw [List.cons_append] at hnone ⊢
    unfold splitOnce?
    rw [hnone]
    have hrest := ih fun u v huv hv => h (c :: u) v (by rw [huv, List.cons_append]) hv
    simp only [hrest, Option.map_some]

/-- A text is cut at a separator that begins with a character it does not hold. -/
theorem splitOnce?_of_notMem {c : Char} {s : Text} (hs : c ∉ s) (sep t : Text) :
    splitOnce? (c :: sep) (s ++ (c :: sep ++ t)) = some (s, t) := by
  refine splitOnce?_of_first fun u v hsplit hv hp => hs ?_
  obtain ⟨d, v, rfl⟩ := List.exists_cons_of_ne_nil hv
  obtain rfl : c = d := (List.cons_prefix_cons.1 hp).1
  rw [hsplit]
  exact List.mem_append_right u List.mem_cons_self

theorem splitOnce?_eq_none_of_notMem {c : Char} {s : Text} (hs : c ∉ s) (sep : Text) :
    splitOnce? (c :: sep) s = none := by
  rw [← Option.not_isSome_iff_eq_none]
  intro hsome
  exact hs ((includes_iff.1 hsome).subset List.mem_cons_self)

/-- The piece before the first separator, and the pieces after it. -/
theorem splitOn_of_first {sep s t : Text} (hsep : sep ≠ [])
    (h : ∀ u v, s = u ++ v → v ≠ [] → ¬ sep <+: v ++ (sep ++ t)) :
    splitOn sep (s ++ (sep ++ t)) = s :: splitOn sep t := by
  have hcut := splitOnce?_of_first h
  rw [splitOn]
  split
  · next hnone => rw [hcut] at hnone; cases hnone
  · next before after hsome =>
    rw [hcut] at hsome
    cases hsome
    rw [dif_neg hsep]

theorem splitOn_of_not_infix {sep s : Text} (h : ¬ sep <:+: s) : splitOn sep s = [s] := by
  have hcut : splitOnce? sep s = none := by
    rw [← Option.not_isSome_iff_eq_none]
    exact fun hsome => h (includes_iff.1 hsome)
  rw [splitOn]
  split
  · rfl
  · next before after hsome => rw [hcut] at hsome; cases hsome

/-- The separator stands in none of the pieces. -/
theorem not_infix_of_mem_splitOn {sep s piece : Text} (hsep : sep ≠ [])
    (h : piece ∈ splitOn sep s) : ¬ sep <:+: piece := by
  fun_induction splitOn sep s with
  | case1 s hcut =>
    rw [List.mem_singleton.1 h, ← includes_iff, includes, hcut]
    exact Bool.false_ne_true
  | case2 s before after hcut => exact (hsep ‹_›).elim
  | case3 s before after hcut _ ih =>
    rcases List.mem_cons.1 h with rfl | h
    · exact not_infix_of_splitOnce? hsep hcut
    · exact ih h

section Separator

variable {c : Char} {s l : Text}

theorem splitOn_of_notMem (h : c ∉ s) : splitOn [c] s = [s] :=
  splitOn_of_not_infix fun hin => h (hin.subset List.mem_cons_self)

theorem splitOn_append_cons (h : c ∉ s) (t : Text) :
    splitOn [c] (s ++ c :: t) = s :: splitOn [c] t := by
  refine splitOn_of_first (List.cons_ne_nil c []) fun u v hsplit hv hp => h ?_
  obtain ⟨d, v, rfl⟩ := List.exists_cons_of_ne_nil hv
  obtain rfl : c = d := (List.cons_prefix_cons.1 hp).1
  rw [hsplit]
  exact List.mem_append_right u List.mem_cons_self

/-- The pieces between the occurrences of a character do not hold it. -/
theorem notMem_of_mem_splitOn (hl : l ∈ splitOn [c] s) : c ∉ l := fun hc =>
  not_infix_of_mem_splitOn (List.cons_ne_nil c []) hl ((List.singleton_infix_iff c l).2 hc)

theorem splitOn_ne_nil (c : Char) (s : Text) : splitOn [c] s ≠ [] := by
  rw [splitOn]
  split
  · exact List.cons_ne_nil _ _
  · split <;> exact List.cons_ne_nil _ _

/-- Pieces that do not hold the character are cut apart again. -/
theorem splitOn_intercalate {ls : List Text} (hne : ls ≠ []) (h : ∀ l ∈ ls, c ∉ l) :
    splitOn [c] ([c].intercalate ls) = ls := by
  induction ls with
  | nil => exact (hne rfl).elim
  | cons l ls ih =>
    obtain ⟨hl, h⟩ := List.forall_mem_cons.1 h
    by_cases hls : ls = []
    · rw [hls, List.intercalate_singleton, splitOn_of_notMem hl]
    · rw [List.intercalate_cons_of_ne_nil hls, List.append_assoc, List.singleton_append,
        splitOn_append_cons hl, ih hls h]

end Separator

/-! ### Numbers -/

theorem digitValue?_of_isDigit {c : Char} (hc : c.isDigit = true) :
    digitValue? 10 c = some (c.toNat - 48) := by
  rw [isDigit_iff] at hc
  have hrange : '0' ≤ c ∧ c ≤ '9' := hc
  unfold digitValue?
  dsimp only
  rw [if_pos hrange, Option.filter_some, if_pos]
  rw [decide_eq_true_eq]
  omega

theorem foldlM_digitValue? {s : Text} (hs : ∀ c ∈ s, c.isDigit = true) (acc : Nat) :
    s.foldlM (fun acc c => (digitValue? 10 c).map (acc * 10 + ·)) acc =
      some (Nat.ofDigitChars 10 s acc) := by
  induction s generalizing acc with
  | nil => simp
  | cons c s ih =>
    rw [List.foldlM_cons, digitValue?_of_isDigit (hs c List.mem_cons_self), Option.map_some,
      Nat.ofDigitChars_cons, Nat.mul_comm 10 acc]
    exact ih (fun d hd => hs d (List.mem_cons_of_mem c hd)) _

theorem isDigit_of_mem_ofNat {n : Nat} {c : Char} (hc : c ∈ ofNat n) : c.isDigit = true :=
  Nat.isDigit_of_mem_toDigits (by decide) (by decide) hc

/-- The digits of a number write it. -/
theorem digits?_ofNat (n : Nat) : digits? 10 (ofNat n) = some n := by
  obtain ⟨c, s, hcs⟩ := List.exists_cons_of_ne_nil (Nat.toDigits_ne_nil (n := n) (b := 10))
  have hvalue := foldlM_digitValue? (fun c hc => isDigit_of_mem_ofNat hc) 0 (s := ofNat n)
  rw [ofNat, Nat.ofDigitChars_ten_toDigits, hcs] at hvalue
  rw [ofNat, hcs]
  exact hvalue

/-- What begins with no digit writes no number. -/
theorem digits?_eq_none {c : Char} {s : Text} (hc : digitValue? 10 c = none) :
    digits? 10 (c :: s) = none := by
  simp [digits?, hc]

/-- A number that is not too large is read from its digits. -/
theorem unsigned?_ofNat {n max : Nat} (hn : n ≤ max) : unsigned? 10 max (ofNat n) = some n := by
  have hsign : ∀ c ∈ ofNat n, c ≠ '+' := by
    rintro c hc rfl
    exact absurd (isDigit_of_mem_ofNat hc) (by decide)
  unfold unsigned?
  split
  · next rest hplus => exact (hsign '+' (hplus ▸ List.mem_cons_self) rfl).elim
  · dsimp only
    rw [digits?_ofNat, Option.filter_some, if_pos (decide_eq_true hn)]

/-! ### Joining -/

section Joining

variable {sep l : Text} {ls : List Text}

theorem subset_intercalate (hl : l ∈ ls) : l ⊆ sep.intercalate ls := by
  induction ls with
  | nil => cases hl
  | cons m ls ih =>
    intro c hc
    obtain rfl | hne := eq_or_ne ls []
    · rw [List.intercalate_singleton]
      exact List.mem_singleton.1 hl ▸ hc
    rw [List.intercalate_cons_of_ne_nil hne]
    obtain rfl | hl := List.mem_cons.1 hl
    · exact List.mem_append_left _ (List.mem_append_left _ hc)
    · exact List.mem_append_right _ (ih hl hc)

theorem forall_mem_intercalate {P : Char → Prop} (hsep : ∀ c ∈ sep, P c)
    (h : ∀ l ∈ ls, ∀ c ∈ l, P c) : ∀ c ∈ sep.intercalate ls, P c := by
  induction ls with
  | nil => exact fun c hc => (List.not_mem_nil hc).elim
  | cons m ls ih =>
    obtain ⟨hm, h⟩ := List.forall_mem_cons.1 h
    obtain rfl | hne := eq_or_ne ls []
    · rwa [List.intercalate_singleton]
    · rw [List.intercalate_cons_of_ne_nil hne]
      exact List.forall_mem_append.2 ⟨List.forall_mem_append.2 ⟨hm, hsep⟩, ih h⟩

theorem intercalate_ne_nil (h : ∀ l ∈ ls, l ≠ []) (hne : ls ≠ []) : sep.intercalate ls ≠ [] := by
  obtain ⟨m, ms, rfl⟩ := List.exists_cons_of_ne_nil hne
  obtain ⟨c, hc⟩ := List.exists_mem_of_ne_nil m (h m List.mem_cons_self)
  exact List.ne_nil_of_mem (subset_intercalate List.mem_cons_self hc)

theorem head?_intercalate (h : ∀ l ∈ ls, l ≠ []) :
    (sep.intercalate ls).head? = ls.head?.bind List.head? := by
  cases ls with
  | nil => rfl
  | cons l ls =>
    obtain rfl | hne := eq_or_ne ls []
    · rw [List.intercalate_singleton]
      rfl
    · have hl : l ≠ [] := h l List.mem_cons_self
      rw [List.intercalate_cons_of_ne_nil hne, List.append_assoc, List.head?_append_of_ne_nil _ hl]
      rfl

theorem getLast?_intercalate (h : ∀ l ∈ ls, l ≠ []) :
    (sep.intercalate ls).getLast? = ls.getLast?.bind List.getLast? := by
  induction ls with
  | nil => rfl
  | cons l ls ih =>
    obtain ⟨hl, hrest⟩ := List.forall_mem_cons.1 h
    obtain rfl | hne := eq_or_ne ls []
    · rw [List.intercalate_singleton]
      rfl
    · rw [List.intercalate_cons_of_ne_nil hne,
        List.getLast?_append_of_ne_nil _ (intercalate_ne_nil hrest hne), ih hrest,
        List.getLast?_cons_of_ne_nil hne]

end Joining

/-! ### Trimming -/

/-- Whether every character is a blank. -/
def AllBlank (s : Text) : Prop := ∀ c ∈ s, isBlank c = true

theorem isBlankText_iff {s : Text} : isBlankText s = true ↔ AllBlank s := List.all_eq_true

theorem allBlank_space : AllBlank [' '] := fun c hc => by
  rw [List.mem_singleton.1 hc]
  rfl

theorem allBlank_append {s t : Text} : AllBlank (s ++ t) ↔ AllBlank s ∧ AllBlank t :=
  List.forall_mem_append

theorem trimStart_append_of_allBlank {s : Text} (h : AllBlank s) (t : Text) :
    trimStart (s ++ t) = trimStart t :=
  List.dropWhile_append_of_pos h

theorem trimEnd_append_of_allBlank {t : Text} (h : AllBlank t) (s : Text) :
    trimEnd (s ++ t) = trimEnd s := by
  unfold trimEnd
  rw [List.reverse_append, List.dropWhile_append_of_pos fun c hc => h c (List.mem_reverse.1 hc)]

theorem trimStart_append_of_not_allBlank {s : Text} (h : ¬ AllBlank s) (t : Text) :
    trimStart (s ++ t) = trimStart s ++ t := by
  induction s with
  | nil => exact (h fun c hc => (List.not_mem_nil hc).elim).elim
  | cons c s ih =>
    unfold trimStart at ih ⊢
    rw [List.cons_append, List.dropWhile_cons, List.dropWhile_cons]
    by_cases hc : isBlank c = true
    · rw [if_pos hc, if_pos hc]
      exact ih fun hs => h (List.forall_mem_cons.2 ⟨hc, hs⟩)
    · rw [if_neg hc, if_neg hc, List.cons_append]

theorem trimStart_eq_nil_iff {s : Text} : trimStart s = [] ↔ AllBlank s := by
  unfold trimStart
  rw [List.dropWhile_eq_nil_iff]
  rfl

theorem trim_append_of_allBlank {t : Text} (h : AllBlank t) (s : Text) :
    trim (s ++ t) = trim s := by
  unfold trim
  by_cases hs : AllBlank s
  · rw [trimStart_append_of_allBlank hs, trimStart_eq_nil_iff.2 h, trimStart_eq_nil_iff.2 hs]
  · rw [trimStart_append_of_not_allBlank hs, trimEnd_append_of_allBlank h]

theorem trim_allBlank_append {s : Text} (h : AllBlank s) (t : Text) : trim (s ++ t) = trim t := by
  unfold trim
  rw [trimStart_append_of_allBlank h]

theorem trimEnd_eq_rdropWhile (s : Text) : trimEnd s = s.rdropWhile isBlank := rfl

theorem trimEnd_eq_self {s : Text} (hlast : ∀ c ∈ s.getLast?, isBlank c = false) :
    trimEnd s = s := by
  rw [trimEnd_eq_rdropWhile, List.rdropWhile_eq_self_iff]
  intro hs
  simpa using hlast _ (List.getLast?_eq_some_getLast hs)

/-- A text that begins and ends with no blank stays as it is. -/
theorem trim_eq_self {s : Text} (hhead : ∀ c ∈ s.head?, isBlank c = false)
    (hlast : ∀ c ∈ s.getLast?, isBlank c = false) : trim s = s := by
  have hstart : trimStart s = s := by
    cases s with
    | nil => rfl
    | cons c s => exact List.dropWhile_cons_of_neg (by simpa using hhead c rfl)
  unfold trim
  rw [hstart, trimEnd_eq_self hlast]

theorem isBlank_head_trimStart (s : Text) : ∀ c ∈ (trimStart s).head?, isBlank c = false := by
  intro c hc
  have hnot := List.head?_dropWhile_not isBlank s
  rw [show (s.dropWhile isBlank).head? = some c from hc] at hnot
  simpa using hnot

theorem isBlank_getLast_trim (s : Text) : ∀ c ∈ (trim s).getLast?, isBlank c = false := by
  intro c hc
  have hne : (trimStart s).rdropWhile isBlank ≠ [] := by
    rintro hnil
    unfold trim at hc
    rw [trimEnd_eq_rdropWhile, hnil] at hc
    cases hc
  have hnot := List.rdropWhile_last_not isBlank (trimStart s) hne
  unfold trim at hc
  rw [trimEnd_eq_rdropWhile, List.getLast?_eq_some_getLast hne] at hc
  cases hc
  simpa using hnot

theorem isBlank_head_trim (s : Text) : ∀ c ∈ (trim s).head?, isBlank c = false := by
  intro c hc
  refine isBlank_head_trimStart s c ?_
  obtain ⟨rest, hrest⟩ := List.rdropWhile_prefix isBlank (trimStart s)
  unfold trim at hc
  rw [trimEnd_eq_rdropWhile] at hc
  rw [← hrest, List.head?_append, Option.mem_def.1 hc]
  rfl

theorem trim_trim (s : Text) : trim (trim s) = trim s :=
  trim_eq_self (isBlank_head_trim s) (isBlank_getLast_trim s)

/-- A text is its trimmed form with blanks around it. -/
theorem exists_blanks_around (s : Text) :
    ∃ before after, AllBlank before ∧ AllBlank after ∧ s = before ++ (trim s ++ after) := by
  refine ⟨s.takeWhile isBlank, (trimStart s).rtakeWhile isBlank,
    fun c hc => List.mem_takeWhile_imp hc, fun c hc => List.mem_rtakeWhile_imp hc, ?_⟩
  unfold trim
  rw [trimEnd_eq_rdropWhile, List.rdropWhile_append_rtakeWhile]
  exact List.takeWhile_append_dropWhile.symm

theorem trim_infix (s : Text) : trim s <:+: s := by
  obtain ⟨before, after, -, -, hs⟩ := exists_blanks_around s
  exact ⟨before, after, (List.append_assoc _ _ _).trans hs.symm⟩

/-- What has no blanks in it occurs in a text exactly if it occurs in the trimmed one. -/
theorem infix_trim_iff {p : Text} (hne : p ≠ []) (hp : ∀ c ∈ p, isBlank c = false) (s : Text) :
    p <:+: trim s ↔ p <:+: s := by
  have hnot {d : Char} (hd : isBlank d = true) : d ∉ p := fun hmem => by
    rw [hp d hmem] at hd
    cases hd
  have hblank {blanks : Text} (hb : AllBlank blanks) : ¬ p <:+: blanks := fun hin => by
    obtain ⟨c, hc⟩ := List.exists_mem_of_ne_nil p hne
    exact hnot (hb c (hin.subset hc)) hc
  have hbefore {blanks : Text} (hb : AllBlank blanks) (t : Text) :
      p <:+: blanks ++ t ↔ p <:+: t := by
    induction blanks with
    | nil => rfl
    | cons d blanks ih =>
      obtain ⟨hd, hb⟩ := List.forall_mem_cons.1 hb
      rw [show d :: blanks ++ t = [] ++ d :: (blanks ++ t) from rfl,
        infix_append_cons_iff (hnot hd), List.infix_nil, or_iff_right hne, ih hb]
  have hafter {blanks : Text} (hb : AllBlank blanks) (t : Text) :
      p <:+: t ++ blanks ↔ p <:+: t := by
    cases blanks with
    | nil => rw [List.append_nil]
    | cons d blanks =>
      obtain ⟨hd, hb⟩ := List.forall_mem_cons.1 hb
      rw [infix_append_cons_iff (hnot hd), or_iff_left (hblank hb)]
  obtain ⟨before, after, hb, ha, hs⟩ := exists_blanks_around s
  conv_rhs => rw [hs, hbefore hb, hafter ha]

theorem trim_eq_nil_iff {s : Text} : trim s = [] ↔ AllBlank s := by
  constructor
  · intro h
    obtain ⟨before, after, hbefore, hafter, hs⟩ := exists_blanks_around s
    rw [hs, h]
    exact allBlank_append.2 ⟨hbefore, hafter⟩
  · intro h
    unfold trim
    rw [trimStart_eq_nil_iff.2 h]
    rfl

/-- A trimmed text holds nothing but blanks only if it is empty. -/
theorem isBlankText_trim (s : Text) : isBlankText (trim s) = (trim s).isEmpty := by
  rw [Bool.eq_iff_iff, isBlankText_iff, ← trim_eq_nil_iff, trim_trim, List.isEmpty_iff]

section Head

variable {s t : Text} (hhead : ∀ c ∈ t.head?, isBlank c = false)

include hhead

theorem exists_blanks_after : ∃ after, AllBlank after ∧ t = trim t ++ after := by
  obtain ⟨before, after, hbefore, hafter, ht⟩ := exists_blanks_around t
  cases before with
  | nil => exact ⟨after, hafter, ht⟩
  | cons c before =>
    have hc := hhead c (by rw [ht]; rfl)
    rw [hbefore c List.mem_cons_self] at hc
    cases hc

theorem head?_trim : (trim t).head? = t.head? := by
  obtain ⟨after, hafter, ht⟩ := exists_blanks_after hhead
  cases htrim : trim t with
  | nil =>
    cases t with
    | nil => rfl
    | cons c t =>
      have hc := hhead c rfl
      rw [trim_eq_nil_iff.1 htrim c List.mem_cons_self] at hc
      cases hc
  | cons c rest =>
    rw [ht, htrim]
    rfl

/-- The blanks that are trimmed after a text stand after its second part. -/
theorem trim_append_of_head (hs : trim s = s) (hne : t ≠ []) : trim (s ++ t) = s ++ trim t := by
  obtain ⟨after, hafter, ht⟩ := exists_blanks_after hhead
  have htrim : trim t ≠ [] := by
    intro hnil
    have hempty := head?_trim hhead
    rw [hnil] at hempty
    exact hne (List.head?_eq_none_iff.1 hempty.symm)
  conv_lhs => rw [ht, ← List.append_assoc, trim_append_of_allBlank hafter]
  refine trim_eq_self (fun c hc => ?_) fun c hc => ?_
  · rw [List.head?_append, Option.mem_def, Option.or_eq_some_iff] at hc
    rcases hc with hc | ⟨-, hc⟩
    · exact isBlank_head_trim s c (by rw [hs]; exact hc)
    · exact isBlank_head_trim t c hc
  · rw [List.getLast?_append_of_ne_nil _ htrim] at hc
    exact isBlank_getLast_trim t c hc

end Head

/-- The text is not empty and has no blanks at either end. -/
def Trimmed (t : Text) : Prop := t ≠ [] ∧ trim t = t

instance (t : Text) : Decidable (Trimmed t) := inferInstanceAs (Decidable (_ ∧ _))

namespace Trimmed

variable {s t : Text}

theorem of_ends (hne : t ≠ []) (hhead : ∀ c ∈ t.head?, isBlank c = false)
    (hlast : ∀ c ∈ t.getLast?, isBlank c = false) : Trimmed t :=
  ⟨hne, trim_eq_self hhead hlast⟩

theorem of_forall (hne : t ≠ []) (h : ∀ c ∈ t, isBlank c = false) : Trimmed t :=
  of_ends hne (fun c hc => h c (List.mem_of_mem_head? hc))
    fun c hc => h c (List.mem_of_mem_getLast? hc)

theorem isBlank_head (h : Trimmed t) : ∀ c ∈ t.head?, isBlank c = false := by
  rw [← h.2]
  exact isBlank_head_trim t

theorem isBlank_getLast (h : Trimmed t) : ∀ c ∈ t.getLast?, isBlank c = false := by
  rw [← h.2]
  exact isBlank_getLast_trim t

theorem trim_ne_nil (h : Trimmed t) : trim t ≠ [] := by
  rw [h.2]
  exact h.1

/-- What stands between two such texts does not matter. -/
theorem append (hs : Trimmed s) (u : Text) (ht : Trimmed t) : Trimmed (s ++ (u ++ t)) := by
  refine of_ends (List.append_ne_nil_of_left_ne_nil hs.1 _) (fun c hc => ?_) fun c hc => ?_
  · rw [List.head?_append_of_ne_nil _ hs.1] at hc
    exact hs.isBlank_head c hc
  · rw [← List.append_assoc, List.getLast?_append_of_ne_nil _ ht.1] at hc
    exact ht.isBlank_getLast c hc

end Trimmed

end Extraction.Text
