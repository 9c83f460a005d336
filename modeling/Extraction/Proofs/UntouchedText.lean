import Extraction.Proofs.WrittenReferences
import Mathlib.Data.List.Infix

/-!
# Texts that decoding leaves as they are

Decoding changes a text only where it reads a reference, and what it reads there is longer than the
character it stands for; so a text stays as it is exactly if nothing in it is read as a reference.
What is read are the references by name and by number, and besides them numbers with a plus sign in
front, which are no references.

## Main definitions

* `Markup.IsReferenceBody`: what stands between the ampersand and the semicolon of a reference
* `Markup.IsSignedBody`: the same of a number with a plus sign in front
-/

namespace Extraction

namespace Text

/-! ### Digits -/

/-- One or more digits of a base, the letters among them of either case. -/
def IsDigits (base : Nat) (s : Text) : Prop :=
  s ≠ [] ∧ ∀ c ∈ s, ∃ v < base, c.toLower = Nat.digitChar v

theorem toNat_digitChar : ∀ v < 16,
    (Nat.digitChar v).toNat = if v < 10 then v + 48 else v + 87 := by
  decide

section Base

variable {base : Nat} (hbase : base ≤ 16)

include hbase

/-- The characters with a value are the digits, the letters among them of either case. -/
theorem digitValue?_eq_some_iff {v : Nat} {c : Char} :
    digitValue? base c = some v ↔ v < base ∧ c.toLower = Nat.digitChar v := by
  have hchar : c.toLower = Nat.digitChar v ↔ c.toLower.toNat = (Nat.digitChar v).toNat :=
    Char.toNat_inj.symm
  rw [← digitValue?_toLower, digitValue?_eq, Option.filter_eq_some_iff, decide_eq_true_eq, and_comm,
    hchar]
  refine and_congr_right fun hv => ?_
  have hupper := not_upper_toLower c
  rw [toNat_digitChar v (by omega)]
  split_ifs <;> simp only [Option.some.injEq, false_iff] <;> omega

theorem isDigits_of_digits? {n : Nat} {s : Text} (h : digits? base s = some n) :
    IsDigits base s := by
  have hne : s ≠ [] := by
    rintro rfl
    cases h
  refine ⟨hne, fun c hc => ?_⟩
  rw [digits?_eq_readDigits hne] at h
  obtain ⟨v, hv⟩ := Option.ne_none_iff_exists'.1 (digitValue?_of_readDigits h c hc)
  exact ⟨v, (digitValue?_eq_some_iff hbase).1 hv⟩

/-- Digits that are read as a number write that number. -/
theorem numeral_of_readDigits (hone : 1 < base) {n : Nat} {s : Text} (hne : s ≠ [])
    (h : readDigits base 0 s = some n) : Numeral base n s := by
  -- By induction on the digits from the right: the number of the digits before the last one is the
  -- quotient of the number by the base.
  induction s using List.reverseRecOn generalizing n with
  | nil => exact (hne rfl).elim
  | append_singleton s c ih =>
    rw [readDigits_append, Option.bind_eq_some_iff] at h
    obtain ⟨m, hm, hlast⟩ := h
    obtain ⟨v, hv, rfl⟩ : ∃ v, digitValue? base c = some v ∧ m * base + v = n := by
      simpa [readDigits] using hlast
    obtain ⟨hlt, hlower⟩ := (digitValue?_eq_some_iff hbase).1 hv
    have happend : lowerAscii (s ++ [c]) = lowerAscii s ++ [Nat.digitChar v] := by
      simp [lowerAscii, hlower]
    rw [Numeral, happend]
    by_cases hs : s = []
    · obtain rfl : m = 0 := by
        rw [hs] at hm
        exact (Option.some.inj hm).symm
      refine ⟨0, ?_⟩
      rw [hs, Nat.zero_mul, Nat.zero_add, Nat.toDigits_of_lt_base hlt]
      rfl
    obtain ⟨zeros, hzeros⟩ := ih hs hm
    rw [hzeros]
    by_cases hzero : m = 0
    · refine ⟨zeros + 1, ?_⟩
      rw [hzero, Nat.zero_mul, Nat.zero_add, Nat.toDigits_of_lt_base hlt,
        Nat.toDigits_of_lt_base (Nat.zero_lt_of_lt hlt), List.replicate_succ']
      rfl
    · have hbig : base ≤ m * base + v := by
        have := Nat.le_mul_of_pos_left base (Nat.pos_of_ne_zero hzero)
        omega
      have hquotient : (m * base + v) / base = m := by
        rw [Nat.mul_comm, Nat.mul_add_div (by omega), Nat.div_eq_of_lt hlt, Nat.add_zero]
      have hrest : (m * base + v) % base = v := by
        rw [Nat.mul_comm, Nat.mul_add_mod, Nat.mod_eq_of_lt hlt]
      refine ⟨zeros, ?_⟩
      rw [Nat.toDigits_of_base_le hone hbig, hquotient, hrest, List.append_assoc]

theorem numeral_of_digits? (hone : 1 < base) {n : Nat} {s : Text} (h : digits? base s = some n) :
    Numeral base n s := by
  have hne := (isDigits_of_digits? hbase h).1
  exact numeral_of_readDigits hbase hone hne (digits?_eq_readDigits hne ▸ h)

end Base

/-- A number that is read is written in digits, with or without a plus sign in front. -/
theorem digits?_of_unsigned? {base max n : Nat} {s : Text} (h : unsigned? base max s = some n) :
    digits? base s = some n ∨ ∃ digits, s = '+' :: digits ∧ digits? base digits = some n := by
  unfold unsigned? at h
  split at h
  · next rest => exact .inr ⟨rest, rfl, (Option.filter_eq_some_iff.1 h).1⟩
  · exact .inl (Option.filter_eq_some_iff.1 h).1

theorem unsigned?_plus {base max n : Nat} {digits : Text} (h : digits? base digits = some n)
    (hn : n ≤ max) : unsigned? base max ('+' :: digits) = some n := by
  simp [unsigned?, h, hn]

end Text

namespace Markup

open Text

/-! ### What is read as a reference -/

/-- What stands between the ampersand and the semicolon of a reference: a name, or the number sign
and decimal digits, or the number sign, an `x` of either case and hexadecimal digits. -/
inductive IsReferenceBody : Text → Prop
  | named {name : Text} : name ∈ basicNames → IsReferenceBody name
  | decimal {digits : Text} : IsDigits 10 digits → IsReferenceBody ('#' :: digits)
  | hexadecimal {x : Char} {digits : Text} : x = 'x' ∨ x = 'X' → IsDigits 16 digits →
      IsReferenceBody ('#' :: x :: digits)

/-- The number of a character as in a reference, but for a plus sign before its digits. -/
inductive IsSignedBody : Text → Prop
  | decimal {c : Char} {digits : Text} : Numeral 10 c.toNat digits →
      IsSignedBody ('#' :: '+' :: digits)
  | hexadecimal {c x : Char} {digits : Text} : x = 'x' ∨ x = 'X' → Numeral 16 c.toNat digits →
      IsSignedBody ('#' :: x :: '+' :: digits)

/-- The text with an ampersand before and a semicolon after it. -/
def delimited (body : Text) : Text := '&' :: (body ++ [';'])

theorem toNat_of_number {n : Nat} {c : Char}
    (h : (if n.isValidChar then some (Char.ofNat n) else none) = some c) : c.toNat = n := by
  split at h
  · next hvalid =>
    obtain rfl := Option.some.inj h
    rw [Char.ofNat, dif_pos hvalid]
    rfl
  · cases h

/-- What is read as a reference is one, or a number with a plus sign in front. -/
theorem isReferenceBody_or_isSignedBody {body : Text} {c : Char} (h : basicBody? body = some c) :
    IsReferenceBody body ∨ IsSignedBody body := by
  unfold basicBody? at h
  split at h
  · next number =>
    unfold basicNumbered? at h
    obtain ⟨n, hn, hc⟩ := Option.bind_eq_some_iff.1 h
    obtain rfl := toNat_of_number hc
    have hhexadecimal {x : Char} {written : Text} (hx : x = 'x' ∨ x = 'X')
        (hwritten : unsigned? 16 0xFFFFFFFF written = some c.toNat) :
        IsReferenceBody ('#' :: x :: written) ∨ IsSignedBody ('#' :: x :: written) := by
      obtain hdigits | ⟨digits, rfl, hdigits⟩ := digits?_of_unsigned? hwritten
      · exact .inl (.hexadecimal hx (isDigits_of_digits? (by decide) hdigits))
      · have hnumeral := numeral_of_digits? (by decide) (by decide) hdigits
        exact .inr (.hexadecimal hx hnumeral)
    split at hn
    · exact hhexadecimal (.inl rfl) hn
    · exact hhexadecimal (.inr rfl) hn
    · obtain hdigits | ⟨digits, rfl, hdigits⟩ := digits?_of_unsigned? hn
      · exact .inl (.decimal (isDigits_of_digits? (by decide) hdigits))
      · exact .inr (.decimal (numeral_of_digits? (by decide) (by decide) hdigits))
  · exact .inl (.named (mem_basicNames_of_basicNamed? h))

/-- The text is read as a reference between an ampersand and a semicolon. -/
def IsRead (body : Text) : Prop :=
  body.length ≤ 10 ∧ ';' ∉ body ∧ ∃ c, basicBody? body = some c

/-- A number with a plus sign in front is read, if it is short enough. -/
theorem IsSignedBody.isRead {body : Text} (h : IsSignedBody body) (hlength : body.length ≤ 10) :
    IsRead body := by
  cases h with
  | @decimal c digits hdigits =>
    have hvalue := digits?_of_numeral (by decide) (by decide) hdigits
    refine ⟨hlength, ?_, c, ?_⟩
    · simpa using notMem_of_digits? hvalue rfl
    · change (unsigned? 10 _ ('+' :: digits)).bind _ = _
      rw [unsigned?_plus hvalue (toNat_le c)]
      exact ofNat_of_number c
  | @hexadecimal c x digits hx hdigits =>
    have hvalue := digits?_of_numeral (by decide) (by decide) hdigits
    refine ⟨hlength, ?_, c, ?_⟩
    · have hmark : x ≠ ';' := by rcases hx with rfl | rfl <;> decide
      simpa [hmark.symm] using notMem_of_digits? hvalue rfl
    · have hbody : basicBody? ('#' :: x :: '+' :: digits) =
          (unsigned? 16 0xFFFFFFFF ('+' :: digits)).bind fun n =>
            if n.isValidChar then some (Char.ofNat n) else none := by
        rcases hx with rfl | rfl <;> rfl
      rw [hbody, unsigned?_plus hvalue (toNat_le c)]
      exact ofNat_of_number c

/-! ### Texts without references -/

/-- A reference is read exactly where the text begins with what is read as one, and a semicolon. -/
theorem basicReference?_eq_some_iff {s rest : Text} {c : Char} :
    basicReference? s = some (c, rest) ↔ ∃ body, s = body ++ ';' :: rest ∧ body.length ≤ 10 ∧
      ';' ∉ body ∧ basicBody? body = some c := by
  constructor
  · intro h
    unfold basicReference? at h
    simp only at h
    split at h
    · next after hafter =>
      obtain ⟨d, hd, hpair⟩ := Option.map_eq_some_iff.1 h
      obtain ⟨rfl, rfl⟩ := Prod.mk.inj hpair
      have hprefix : (s.take 10).takeWhile (· != ';') <+: s :=
        (List.takeWhile_prefix _).trans (List.take_prefix 10 s)
      refine ⟨(s.take 10).takeWhile (· != ';'), ?_, ?_, ?_, hd⟩
      · rw [← hafter]
        exact (List.prefix_iff_eq_append.1 hprefix).symm
      · exact (List.takeWhile_prefix _).length_le.trans (List.length_take_le 10 s)
      · intro hmem
        simpa using List.mem_takeWhile_imp hmem
    · cases h
  · rintro ⟨body, rfl, hlength, hend, hread⟩
    rw [basicReference?_append hlength hend, hread]
    rfl

theorem length_unescapeBasic_le (s : Text) : (unescapeBasic s).length ≤ s.length := by
  fun_induction unescapeBasic s with
  | case1 => exact le_rfl
  | case2 rest d after hread ih =>
    have := length_of_basicReference? hread
    simp only [List.length_cons]
    omega
  | case3 rest hread ih => simpa using ih
  | case4 c rest hc ih => simpa using ih

/-- Where a reference is read, the text gets shorter. -/
theorem length_unescapeBasic_lt {body s : Text} (hbody : IsRead body) (h : delimited body <:+: s) :
    (unescapeBasic s).length < s.length := by
  obtain ⟨hlength, hend, c, hread⟩ := hbody
  fun_induction unescapeBasic s with
  | case1 => exact (List.cons_ne_nil _ _ (List.infix_nil.1 h)).elim
  | case2 rest d after hdecoded ih =>
    have hshorter := length_of_basicReference? hdecoded
    have hle := length_unescapeBasic_le after
    simp only [List.length_cons]
    omega
  | case3 rest hnone ih =>
    -- The reference does not begin here, or it would have been read.
    have hinside : delimited body <:+: rest := by
      refine (List.infix_cons_iff.1 h).resolve_left ?_
      rintro ⟨after, hafter⟩
      have hrest : rest = body ++ ';' :: after := by simpa [delimited] using hafter.symm
      rw [hrest, basicReference?_append hlength hend, hread] at hnone
      cases hnone
    simpa using ih hinside
  | case4 d rest hd ih =>
    have hinside : delimited body <:+: rest := by
      refine (List.infix_cons_iff.1 h).resolve_left ?_
      rintro ⟨after, hafter⟩
      exact hd (List.cons.inj hafter).1.symm
    simpa using ih hinside

/-- A text stays as it is exactly if nothing in it is read as a reference. -/
theorem unescapeBasic_eq_self_iff_isRead {s : Text} :
    unescapeBasic s = s ↔ ∀ body, IsRead body → ¬ delimited body <:+: s := by
  constructor
  · intro heq body hbody hin
    have hshorter := length_unescapeBasic_lt hbody hin
    rw [heq] at hshorter
    exact lt_irrefl _ hshorter
  · intro hnone
    have htail {c : Char} {rest : Text} (h : ∀ body, IsRead body → ¬ delimited body <:+: c :: rest) :
        ∀ body, IsRead body → ¬ delimited body <:+: rest :=
      fun body hbody hin => h body hbody (List.infix_cons hin)
    fun_induction unescapeBasic s with
    | case1 => rfl
    | case2 rest d after hdecoded ih =>
      obtain ⟨body, rfl, hlength, hend, hread⟩ := basicReference?_eq_some_iff.1 hdecoded
      refine (hnone body ⟨hlength, hend, d, hread⟩ ⟨[], after, ?_⟩).elim
      simp [delimited]
    | case3 rest hread ih => rw [ih (htail hnone)]
    | case4 c rest hc ih => rw [ih (htail hnone)]

/-- A text without references stays as it is exactly if it has no number with a plus sign in front
that is read as one. -/
theorem unescapeBasic_eq_self_iff {s : Text}
    (h : ∀ body, IsReferenceBody body → ¬ delimited body <:+: s) :
    unescapeBasic s = s ↔
      ∀ body, IsSignedBody body → body.length ≤ 10 → ¬ delimited body <:+: s := by
  rw [unescapeBasic_eq_self_iff_isRead]
  constructor
  · intro hnone body hsigned hlength
    exact hnone body (hsigned.isRead hlength)
  · rintro hsigned body ⟨hlength, -, c, hread⟩
    obtain hreference | hplus := isReferenceBody_or_isSignedBody hread
    · exact h body hreference
    · exact hsigned body hplus hlength

theorem delimited_infix_iff {body t : Text} (hamp : '&' ∉ t) (hend : ';' ∉ t) :
    delimited body <:+: delimited t ↔ body = t := by
  refine ⟨?_, fun h => h ▸ List.infix_rfl⟩
  rintro ⟨before, after, h⟩
  -- The ampersand stands only at the start, the semicolon only at the end.
  obtain rfl : before = [] := by
    cases before with
    | nil => rfl
    | cons c before =>
      have hrest : before ++ delimited body ++ after = t ++ [';'] := (List.cons.inj h).2
      have hmem : '&' ∈ t ++ [';'] := by simp [← hrest, delimited]
      simp [hamp] at hmem
  have hrest : body ++ ';' :: after = t ++ [';'] := by simpa [delimited] using h
  obtain rfl | ⟨after, c, rfl⟩ := List.eq_nil_or_concat' after
  · exact (List.append_inj' hrest rfl).1
  · have hbefore : body ++ ';' :: after = t := by
      have hends : body ++ ';' :: after ++ [c] = t ++ [';'] := by simpa using hrest
      exact (List.append_inj' hends rfl).1
    exact (hend (by simp [← hbefore])).elim

theorem not_isReferenceBody {c : Char} {rest : Text} (hdigit : digitValue? 10 c = none)
    (hx : c ≠ 'x') (hX : c ≠ 'X') : ¬ IsReferenceBody ('#' :: c :: rest) := by
  intro h
  cases h with
  | named hname => exact (name_of_mem_basicNames _ hname).2.2 rfl
  | decimal hdigits =>
    obtain ⟨v, hv⟩ := hdigits.2 c List.mem_cons_self
    rw [(digitValue?_eq_some_iff (by decide)).2 hv] at hdigit
    cases hdigit
  | hexadecimal hmark _ => exact hmark.elim hx hX

/-- A minus sign before the digits is no plus sign: nothing is read. -/
theorem unescapeBasic_eq_self_iff_minus :
    let s := delimited "#-38".toList
    (∀ body, IsReferenceBody body → ¬ delimited body <:+: s) ∧ unescapeBasic s = s := by
  intro s
  have hinside (body : Text) : delimited body <:+: s ↔ body = ['#', '-', '3', '8'] :=
    delimited_infix_iff (by decide) (by decide)
  have hreference : ∀ body, IsReferenceBody body → ¬ delimited body <:+: s := by
    intro body hbody hin
    obtain rfl := (hinside body).1 hin
    exact not_isReferenceBody rfl (by decide) (by decide) hbody
  refine ⟨hreference, (unescapeBasic_eq_self_iff hreference).2 fun body hsigned _ hin => ?_⟩
  obtain rfl := (hinside body).1 hin
  cases hsigned

/-- A number with a plus sign in front is no reference, but it is decoded. -/
theorem not_unescapeBasic_eq_self :
    ¬ ∀ s, (∀ body, IsReferenceBody body → ¬ delimited body <:+: s) → unescapeBasic s = s := by
  intro hall
  let s := delimited "#+38".toList
  have hinside (body : Text) : delimited body <:+: s ↔ body = ['#', '+', '3', '8'] :=
    delimited_infix_iff (by decide) (by decide)
  have heq : unescapeBasic s = s := by
    refine hall s fun body hbody hin => ?_
    obtain rfl := (hinside body).1 hin
    exact not_isReferenceBody rfl (by decide) (by decide) hbody
  have hdecoded : unescapeBasic s = ['&'] := by
    have hread : basicReference? "#+38;".toList = some ('&', []) := by decide
    rw [show s = '&' :: "#+38;".toList from rfl, unescapeBasic_reference hread, unescapeBasic]
  rw [hdecoded] at heq
  revert heq
  decide

end Markup

end Extraction
