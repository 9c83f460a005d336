import Extraction.Proofs.SegmentScan

/-!
# Texts that are selectors

The texts that a step can have as its selector, as a grammar: quoted runs are closed, brackets are
nested, and outside of them stand no arrow, no fence and no mark of a script. Such a text is read
into a body as it is, whatever stands after it.

## Main definitions

* `Quoted`: what follows the mark that opens a quoted run, to the mark that closes it
* `Plain`: characters of a selector that stand for themselves
* `Nested`: texts of a selector, inside or outside brackets
-/

namespace Extraction.Rule

open Text

/-- What follows the mark `q` that opens a quoted run, to the mark that closes it. -/
inductive Quoted (q : Char) : Text → Prop
  | close : Quoted q [q]
  | escape {c : Char} {t : Text} : Quoted q t → Quoted q ('\\' :: c :: t)
  | plain {c : Char} {t : Text} : c ≠ '\\' → c ≠ q → Quoted q t → Quoted q (c :: t)

/-- The character `c`, with `previous` before it and `t` after it, opens and closes nothing, and no
mark begins with it: no script, and outside brackets no arrow, no fence and no script that takes the
rest. -/
def Plain (inside : Bool) (previous : Option Char) (c : Char) (t : Text) : Prop :=
  c ≠ '\\' ∧ (isQuote c && opensQuote previous) = false ∧ isOpener c = false ∧ opener? c = none ∧
    ¬ scriptOpen <+: c :: t ∧
    (inside = false →
      ¬ arrow <+: c :: t ∧ ¬ fence <+: c :: t ∧ ¬ scriptRest <+: lowerAscii (c :: t))

instance (inside : Bool) (previous : Option Char) (c : Char) (t : Text) :
    Decidable (Plain inside previous c t) :=
  inferInstanceAs (Decidable (_ ∧ _ ∧ _ ∧ _ ∧ _ ∧ (_ → _ ∧ _ ∧ _)))

/-- The texts of a selector that stand after the character `previous`, inside or outside
brackets. -/
inductive Nested : (inside : Bool) → (previous : Option Char) → Text → Prop
  | nil {inside : Bool} {previous : Option Char} : Nested inside previous []
  | escape {inside : Bool} {previous : Option Char} {c : Char} {t : Text} :
      Nested inside (some c) t → Nested inside previous ('\\' :: c :: t)
  | quoted {inside : Bool} {previous : Option Char} {q : Char} {run t : Text} :
      isQuote q = true → opensQuote previous = true → Quoted q run → Nested inside (some q) t →
      Nested inside previous (q :: (run ++ t))
  | bracketed {inside : Bool} {previous : Option Char} {o c : Char} {u t : Text} :
      isOpener o = true → opener? c = some o → Nested true (some o) u →
      Nested inside (some c) t → Nested inside previous (o :: (u ++ c :: t))
  | plain {inside : Bool} {previous : Option Char} {c : Char} {t : Text} :
      Plain inside previous c t → Nested inside (some c) t → Nested inside previous (c :: t)

/-- Of the character before a text it only matters whether a quotation mark after it opens. -/
theorem Nested.of_opensQuote_eq {inside : Bool} {p p' : Option Char} {t : Text}
    (h : Nested inside p t) (hp : opensQuote p = opensQuote p') : Nested inside p' t := by
  cases h with
  | nil => exact .nil
  | escape ht => exact .escape ht
  | quoted hq hopens hrun ht => exact .quoted hq (hp ▸ hopens) hrun ht
  | bracketed ho hc hinner ht => exact .bracketed ho hc hinner ht
  | plain hplain ht => exact .plain (by rwa [Plain, ← hp]) ht

/-- Whether a character can begin no mark and opens and closes nothing. -/
def isOrdinary (c : Char) : Bool :=
  !(c == '\\' || isQuote c || isOpener c || (opener? c).isSome || c == '<' || c == '-' ||
    c == '#' || c.toLower == '@')

theorem plain_of_isOrdinary {c : Char} (hc : isOrdinary c = true) (inside : Bool)
    (previous : Option Char) (t : Text) : Plain inside previous c t := by
  simp only [isOrdinary, Bool.not_eq_true', Bool.or_eq_false_iff, beq_eq_false_iff_ne,
    Option.isSome_eq_false_iff, Option.isNone_iff_eq_none] at hc
  obtain ⟨⟨⟨⟨⟨⟨⟨hescape, hquote⟩, hopener⟩, hcloser⟩, hopen⟩, harrow⟩, hfence⟩, hrest⟩ := hc
  exact ⟨hescape, by rw [hquote, Bool.false_and], hopener, hcloser, not_prefix_of_head_ne hopen,
    fun _ => ⟨not_prefix_of_head_ne harrow, not_prefix_of_head_ne hfence,
      not_prefix_of_head_ne hrest⟩⟩

theorem Nested.of_ordinary {inside : Bool} {previous : Option Char} {w t : Text}
    (hw : w.all isOrdinary = true) (ht : Nested inside (w.getLast?.or previous) t) :
    Nested inside previous (w ++ t) := by
  induction w generalizing previous with
  | nil => exact ht
  | cons c w ih =>
    rw [List.all_cons, Bool.and_eq_true] at hw
    refine .plain (plain_of_isOrdinary hw.1 _ _ _) (ih hw.2 ?_)
    rw [List.getLast?_cons] at ht
    cases hlast : w.getLast? with
    | none => rw [hlast] at ht; exact ht
    | some d => rw [hlast] at ht; exact ht

/-- A hint before a text of a selector. -/
theorem Nested.of_hint {t : Text} (ht : Nested false none t) (mode : Mode) :
    Nested false none (mode.hint ++ t) := by
  have hcolon : Nested false (some ':') t := ht.of_opensQuote_eq (by decide)
  have hname : Nested false (some '@') (mode.name ++ [':'] ++ t) := by
    refine .of_ordinary ?_ ?_
    · cases mode <;> decide
    · rw [List.getLast?_concat]
      exact hcolon
  have hrest : ¬ scriptRest <+: lowerAscii ('@' :: (mode.name ++ [':'] ++ t)) := by
    cases mode <;> simp [scriptRest, lowerAscii, Mode.name, List.cons_prefix_cons]
  exact .plain ⟨by decide, by decide, by decide, by decide, not_prefix_of_head_ne (by decide),
    fun _ => ⟨not_prefix_of_head_ne (by decide), not_prefix_of_head_ne (by decide), hrest⟩⟩ hname

theorem closer_cases {c o : Char} (h : opener? c = some o) : c = ')' ∨ c = ']' ∨ c = '\x7d' := by
  unfold opener? at h
  split at h
  · next hc => exact .inl hc
  · split at h
    · next hc => exact .inr (.inl hc)
    · split at h
      · next hc => exact .inr (.inr hc)
      · cases h

theorem parts_cons_of_closer {c o : Char} (h : opener? c = some o) (t : Text) : Parts (c :: t) := by
  rcases closer_cases h with rfl | rfl | rfl <;> exact parts_cons (by decide) t

theorem opener_cases {o : Char} (h : isOpener o = true) : o = '(' ∨ o = '[' ∨ o = '\x7b' := by
  simpa [isOpener, or_assoc] using h

theorem quote_cases {q : Char} (h : isQuote q = true) : q = '"' ∨ q = '\'' := by
  simpa [isQuote] using h

theorem Quoted.getLast? {q : Char} {u : Text} (h : Quoted q u) : u.getLast? = some q := by
  induction h with
  | close => rfl
  | escape _ ih => simp [List.getLast?_cons, ih]
  | plain _ _ _ ih => simp [List.getLast?_cons, ih]

theorem getLast?_ne_of_append {u v : Text} {d : Char} (h : (u ++ v).getLast? ≠ some d) :
    v.getLast? ≠ some d := fun hv => h (by rw [List.getLast?_append, hv]; rfl)

namespace Scan

theorem with_quote {s : Scan} {q : Option Char} (h : s.quote = q) : { s with quote := q } = s := by
  rw [← h]

/-- A quoted run is read to its end. -/
theorem run_quoted {q : Char} {u : Text} (h : Quoted q u) (hq : q ≠ '\\') {s : Scan}
    (hs : s.quote = some q) (t : Text) :
    run s (u ++ t) = run { s.readBody u with quote := none } t := by
  induction h generalizing s with
  | close =>
    have hstep : s.step q t = .ok ({ s.addBody [q] with quote := none }, 0) := by
      rw [step_of_quote hs, quotedStep, if_neg hq, if_pos rfl]
    exact run_cons hstep
  | @escape c u _ ih =>
    have hstep : s.step '\\' (c :: (u ++ t)) = .ok (s.addBody ['\\', c], 1) := by
      rw [step_of_quote hs, quotedStep, if_pos rfl]
      rfl
    rw [List.cons_append, List.cons_append, run_cons hstep]
    have hread := ih (s := s.readBody ['\\', c]) hs
    rw [← readBody_append] at hread
    exact hread
  | @plain c u hc hne _ ih =>
    have hstep : s.step c (u ++ t) = .ok (s.addBody [c], 0) := by
      rw [step_of_quote hs, quotedStep, if_neg hc, if_neg hne, ← hs]
      rfl
    rw [List.cons_append, run_cons hstep]
    have hread := ih (s := s.readBody [c]) hs
    rw [← readBody_append] at hread
    exact hread

section Step

variable {s : Scan} {c : Char}

theorem step_quote (hq : s.quote = none) (hregex : s.current.regex = none) (hc : isQuote c = true)
    (hopens : opensQuote s.previous = true) (t : Text) :
    s.step c t = .ok ({ s.addBody [c] with quote := some c }, 0) := by
  have hunmarked : s.Unmarked (c :: t) ∧ c ≠ '\\' := by
    rcases quote_cases hc with rfl | rfl <;>
      exact ⟨unmarked_cons (by decide) (by decide) t, by decide⟩
  rw [step_of_body hq hregex hunmarked.1, bodyStep, if_neg hunmarked.2, hc, hopens]
  rfl

theorem step_opener (hq : s.quote = none) (hregex : s.current.regex = none)
    (hc : isOpener c = true) (t : Text) :
    s.step c t = .ok ({ s.addBody [c] with brackets := c :: s.brackets }, 0) := by
  have hunmarked : s.Unmarked (c :: t) ∧ c ≠ '\\' ∧ isQuote c = false := by
    rcases opener_cases hc with rfl | rfl | rfl <;>
      exact ⟨unmarked_cons (by decide) (by decide) t, by decide, by decide⟩
  rw [step_of_body hq hregex hunmarked.1, bodyStep, if_neg hunmarked.2.1, hunmarked.2.2, hc]
  rfl

theorem step_closer (hq : s.quote = none) (hregex : s.current.regex = none) {o : Char}
    {outer : List Char} (hc : opener? c = some o) (hbrackets : s.brackets = o :: outer) (t : Text) :
    s.step c t = .ok ({ s.addBody [c] with brackets := outer }, 0) := by
  have hunmarked : s.Unmarked (c :: t) ∧ c ≠ '\\' ∧ isQuote c = false ∧ isOpener c = false := by
    rcases closer_cases hc with rfl | rfl | rfl <;>
      exact ⟨unmarked_cons (by decide) (by decide) t, by decide, by decide, by decide⟩
  rw [step_of_body hq hregex hunmarked.1, bodyStep, if_neg hunmarked.2.1, hunmarked.2.2.1,
    hunmarked.2.2.2, hc, hbrackets]
  exact if_pos rfl

/-- What stands for itself in a selector does so also when a text follows that goes on with no
mark. -/
theorem step_plain {previous : Option Char} {inside : Bool} {cs t : Text} (hq : s.quote = none)
    (hregex : s.current.regex = none) (hopens : opensQuote s.previous = opensQuote previous)
    (hinside : inside = true → s.brackets ≠ []) (h : Plain inside previous c cs) (ht : Parts t)
    (hfence : inside = false → t.head? = some '#' → (c :: cs).getLast? ≠ some '#') :
    s.step c (cs ++ t) = .ok (s.addBody [c], 0) := by
  obtain ⟨hescape, hquote, hopener, hcloser, hopen, hmarks⟩ := h
  have houtside (hempty : s.brackets = []) : inside = false :=
    Bool.eq_false_iff.2 fun hin => hinside hin hempty
  have hunmarked : s.Unmarked (c :: cs) := ⟨hopen, fun hempty => (hmarks (houtside hempty)).2.2⟩
  rw [step_of_body hq hregex (hunmarked.append ht)]
  rw [← hopens] at hquote
  refine bodyStep_plain hescape hquote hopener hcloser (fun hempty => ?_) fun hempty => ?_
  · rw [arrow_prefix_append ht]
    exact (hmarks (houtside hempty)).1
  · rw [fence_prefix_append (hfence (houtside hempty))]
    exact (hmarks (houtside hempty)).2.1

end Step

/-- A quoted run with its marks is read into the body. -/
theorem run_quotation {q : Char} {r : Text} (hquote : isQuote q = true) (hr : Quoted q r) {s : Scan}
    (hq : s.quote = none) (hregex : s.current.regex = none) (hopens : opensQuote s.previous = true)
    (t : Text) : run s (q :: (r ++ t)) = run (s.readBody (q :: r)) t := by
  have hne : q ≠ '\\' := by
    rcases quote_cases hquote with rfl | rfl <;> decide
  have hstate : { (Scan.readBody { s.readBody [q] with quote := some q } r) with quote := none } =
      s.readBody (q :: r) :=
    calc { (Scan.readBody { s.readBody [q] with quote := some q } r) with quote := none }
      _ = { (s.readBody [q]).readBody r with quote := none } := rfl
      _ = { s.readBody (q :: r) with quote := none } := by rw [← readBody_append]; rfl
      _ = s.readBody (q :: r) := with_quote (s := s.readBody (q :: r)) hq
  have hrun := run_quoted (s := { s.readBody [q] with quote := some q }) hr hne rfl t
  rw [run_cons (step_quote hq hregex hquote hopens (r ++ t)), ← hstate]
  exact hrun

/-- Brackets are read into the body if what stands between them is. -/
theorem run_brackets {o c : Char} {u : Text} (ho : isOpener o = true) (hc : opener? c = some o)
    {s : Scan} (hq : s.quote = none) (hregex : s.current.regex = none) {t : Text}
    (hu : run { s.readBody [o] with brackets := o :: s.brackets } (u ++ c :: t) =
      run (readBody { s.readBody [o] with brackets := o :: s.brackets } u) (c :: t)) :
    run s (o :: (u ++ c :: t)) = run (s.readBody (o :: (u ++ [c]))) t := by
  have hclose := step_closer
    (s := readBody { s.readBody [o] with brackets := o :: s.brackets } u) hq hregex hc rfl t
  have hstate : ((s.readBody [o]).readBody u).readBody [c] = s.readBody (o :: (u ++ [c])) := by
    rw [← readBody_append, ← readBody_append]
    rfl
  rw [run_cons (step_opener hq hregex ho _), ← hstate]
  exact hu.trans (run_cons hclose)

/-- A text of a selector is read into the body as it is. -/
theorem run_nested {inside : Bool} {previous : Option Char} {u : Text}
    (h : Nested inside previous u) {s : Scan} (hq : s.quote = none)
    (hregex : s.current.regex = none) (hopens : opensQuote s.previous = opensQuote previous)
    (hinside : inside = true → s.brackets ≠ []) {t : Text} (ht : Parts t)
    (hfence : inside = false → t.head? = some '#' → u.getLast? ≠ some '#') :
    run s (u ++ t) = run (s.readBody u) t := by
  -- By induction on how the text is made: its first piece is read, and the rest of it from there.
  induction h generalizing s t with
  | nil => rw [readBody_nil, List.nil_append]
  | @escape inside previous c u _ ih =>
    have hread := ih (s := s.readBody ['\\', c]) hq hregex rfl hinside ht fun hin hhash =>
      getLast?_ne_of_append (u := ['\\', c]) (hfence hin hhash)
    rw [← readBody_append] at hread
    rw [List.cons_append, List.cons_append, run_cons (step_escape hq hregex (u ++ t))]
    exact hread
  | @quoted inside previous q r u hquote hprevious hr _ ih =>
    have hlast : (q :: r).getLast? = some q := by
      rw [List.getLast?_cons, hr.getLast?]
      rfl
    have hread := ih (s := s.readBody (q :: r)) hq hregex (by rw [readBody_previous s _ hlast])
      hinside ht fun hin hhash => getLast?_ne_of_append (u := q :: r) (hfence hin hhash)
    rw [← readBody_append] at hread
    rw [List.cons_append, List.append_assoc,
      run_quotation hquote hr hq hregex (hopens.trans hprevious)]
    exact hread
  | @bracketed inside previous o c inner u ho hc _ _ ihinner ih =>
    have hlast : (o :: (inner ++ [c])).getLast? = some c := by
      rw [← List.cons_append, List.getLast?_concat]
    have hassoc : o :: (inner ++ c :: u) = o :: (inner ++ [c]) ++ u := by simp
    rw [hassoc] at hfence ⊢
    have hread := ih (s := s.readBody (o :: (inner ++ [c]))) hq hregex
      (by rw [readBody_previous s _ hlast]) hinside ht fun hin hhash =>
        getLast?_ne_of_append (hfence hin hhash)
    have hinner := ihinner (s := { s.readBody [o] with brackets := o :: s.brackets }) hq hregex rfl
      (fun _ => List.cons_ne_nil _ _) (parts_cons_of_closer hc (u ++ t)) nofun
    rw [readBody_append, ← hread, ← run_brackets ho hc hq hregex hinner]
    simp
  | @plain inside previous c u hplain _ ih =>
    have hread := ih (s := s.readBody [c]) hq hregex rfl hinside ht fun hin hhash =>
      getLast?_ne_of_append (u := [c]) (hfence hin hhash)
    rw [← readBody_append] at hread
    rw [List.cons_append, run_cons (step_plain hq hregex hopens hinside hplain ht hfence)]
    exact hread

end Scan

end Extraction.Rule
