import Extraction.Proofs.DirectRules
import Extraction.Proofs.SelectorText

/-!
# Selectors that are balanced

A text without marks is a selector exactly if it is balanced. What that means is said in two steps
that know nothing of a scanner: first the text is read from left to right, which tells the brackets
that count from those in quoted runs and behind backslashes; and then these brackets, taken by
themselves, are to be a properly nested word.

The scanner does both at once, with the brackets that are open on a stack. So its stack is related
to words of brackets first, and then its steps to the reading.

## Main definitions

* `Balanced`: properly nested words of brackets
* `Outline`: the brackets of a text that count
* `IsBalanced`: texts with closed quoted runs whose brackets are balanced
-/

namespace Extraction.Rule

open Text (Trimmed)

/-- Whether a character is a bracket. -/
def isBracket (c : Char) : Bool := isOpener c || (opener? c).isSome

/-! ### Words of brackets -/

/-- The properly nested words: every bracket is closed by its own kind, and what stands between the
two is properly nested as well. -/
inductive Balanced : List Char → Prop
  | nil : Balanced []
  | pair {o c : Char} {u v : List Char} : isOpener o = true → opener? c = some o → Balanced u →
      Balanced v → Balanced (o :: (u ++ c :: v))

/-- The brackets that are open after one more bracket, innermost first; none if it closes what is
not open. -/
def afterBracket (stack : List Char) (c : Char) : Option (List Char) :=
  if isOpener c then some (c :: stack)
  else
    match stack with
    | [] => none
    | o :: outer => if opener? c = some o then some outer else none

/-- The brackets that are open after a word, where `stack` are open before it. -/
def openAfter (stack word : List Char) : Option (List Char) := word.foldlM afterBracket stack

/-- A word that closes what is open: one bracket after the other, the innermost first, with balanced
words before, between and after them. -/
inductive Closes : List Char → List Char → Prop
  | done {word : List Char} : Balanced word → Closes [] word
  | close {o c : Char} {outer u v : List Char} : Balanced u → opener? c = some o →
      Closes outer v → Closes (o :: outer) (u ++ c :: v)

section Words

variable {c o : Char} {stack outer word : List Char}

theorem openAfter_nil : openAfter stack [] = some stack := rfl

theorem openAfter_cons : openAfter stack (c :: word) =
    (afterBracket stack c).bind fun stack => openAfter stack word := List.foldlM_cons

theorem afterBracket_opener (hc : isOpener c = true) : afterBracket stack c = some (c :: stack) :=
  if_pos hc

theorem afterBracket_closer (hc : opener? c = some o) :
    afterBracket stack c = some outer ↔ stack = o :: outer := by
  have hopener : isOpener c = false := by
    rcases closer_cases hc with rfl | rfl | rfl <;> decide
  cases stack with
  | nil => simp [afterBracket, hopener]
  | cons b rest => simp [afterBracket, hopener, hc, eq_comm]

theorem openAfter_opener (hc : isOpener c = true) :
    openAfter stack (c :: word) = openAfter (c :: stack) word := by
  rw [openAfter_cons, afterBracket_opener hc, Option.bind_some]

theorem openAfter_closer (hc : opener? c = some o) :
    openAfter (o :: outer) (c :: word) = openAfter outer word := by
  rw [openAfter_cons, (afterBracket_closer hc).mpr rfl, Option.bind_some]

/-- A balanced word leaves open what was open before it. -/
theorem Balanced.openAfter_append {u : List Char} (hu : Balanced u) (stack v : List Char) :
    openAfter stack (u ++ v) = openAfter stack v := by
  induction hu generalizing stack v with
  | nil => rfl
  | @pair o c inner rest ho hc _ _ ihinner ih =>
    have hassoc : o :: (inner ++ c :: rest) ++ v = o :: (inner ++ c :: (rest ++ v)) := by simp
    rw [hassoc, openAfter_opener ho, ihinner, openAfter_closer hc, ih]

/-- A pair of brackets may be put in front of what closes the rest. -/
theorem Closes.pair {u v : List Char} (ho : isOpener o = true) (hc : opener? c = some o)
    (hu : Balanced u) (hv : Closes stack v) : Closes stack (o :: (u ++ c :: v)) := by
  cases hv with
  | done hv => exact .done (.pair ho hc hu hv)
  | @close b d outer v w hv hd hw =>
    have hassoc : o :: (u ++ c :: (v ++ d :: w)) = o :: (u ++ c :: v) ++ d :: w := by simp
    rw [hassoc]
    exact .close (.pair ho hc hu hv) hd hw

theorem closes_of_openAfter (h : openAfter stack word = some []) : Closes stack word := by
  -- By induction on the word: an opening bracket is closed by the first bracket of what follows it
  -- that closes anything.
  induction word generalizing stack with
  | nil =>
    cases h
    exact .done .nil
  | cons c word ih =>
    rw [openAfter_cons] at h
    obtain ⟨stack', hstack', hrest⟩ := Option.bind_eq_some_iff.mp h
    have hcloses := ih hrest
    unfold afterBracket at hstack'
    split at hstack'
    · next hopener =>
      cases hstack'
      cases hcloses with
      | close hu hd hv => exact hv.pair hopener hd hu
    · split at hstack'
      · cases hstack'
      · split at hstack'
        · next hc =>
          cases hstack'
          exact .close (u := []) .nil hc hcloses
        · cases hstack'

/-- Nothing is open after a word, and nothing closed that was not open, exactly if it is
balanced. -/
theorem balanced_iff : Balanced word ↔ openAfter [] word = some [] := by
  constructor
  · intro h
    rw [← List.append_nil word, h.openAfter_append, openAfter_nil]
  · intro h
    cases closes_of_openAfter h with
    | done hword => exact hword

end Words

/-! ### Texts -/

/-- A text that stands after the character `previous` is read from left to right. Every quoted run
is closed, and `word` are the brackets outside quoted runs. A backslash and the character after it
are read together and stand for nothing, and so is a backslash at the end. -/
inductive Outline : (previous : Option Char) → Text → (word : List Char) → Prop
  | nil {previous : Option Char} : Outline previous [] []
  | backslash {previous : Option Char} : Outline previous ['\\'] []
  | escape {previous : Option Char} {c : Char} {t : Text} {word : List Char} :
      Outline (some c) t word → Outline previous ('\\' :: c :: t) word
  | quoted {previous : Option Char} {q : Char} {run t : Text} {word : List Char} :
      isQuote q = true → opensQuote previous = true → Quoted q run → Outline (some q) t word →
      Outline previous (q :: (run ++ t)) word
  | bracket {previous : Option Char} {c : Char} {t : Text} {word : List Char} :
      isBracket c = true → Outline (some c) t word → Outline previous (c :: t) (c :: word)
  | plain {previous : Option Char} {c : Char} {t : Text} {word : List Char} :
      c ≠ '\\' → (isQuote c && opensQuote previous) = false → isBracket c = false →
      Outline (some c) t word → Outline previous (c :: t) word

/-- The text has closed quoted runs, and the brackets outside of them are balanced. -/
def IsBalanced (s : Text) : Prop := ∃ word, Outline none s word ∧ Balanced word

namespace Scan

variable {s s' : Scan} {t : Text} {word : List Char}

/-- What is not marked is read into the body if it opens and closes nothing. -/
theorem step_of_no_bracket {c : Char} {cs : Text} (hq : s.quote = none)
    (hregex : s.current.regex = none) (ht : Markless (c :: cs)) (hescape : c ≠ '\\')
    (hquote : (isQuote c && opensQuote s.previous) = false) (hbracket : isBracket c = false) :
    s.step c cs = .ok (s.addBody [c], 0) := by
  rw [isBracket, Bool.or_eq_false_iff, Option.isSome_eq_false_iff,
    Option.isNone_iff_eq_none] at hbracket
  have hunmarked : s.Unmarked (c :: cs) :=
    ⟨fun h => ht.scriptOpen h.isInfix, fun _ h => ht.scriptRest h.isInfix⟩
  rw [step_of_body hq hregex hunmarked]
  exact bodyStep_plain hescape hquote hbracket.1 hbracket.2 (fun _ h => ht.arrow h.isInfix)
    fun _ h => ht.fence h.isInfix

/-- A backslash at the end is read into the body. -/
theorem step_backslash (hq : s.quote = none) (hregex : s.current.regex = none) :
    s.step '\\' [] = .ok (s.addBody ['\\'], 0) := by
  rw [step_of_body hq hregex (unmarked_cons (by decide) (by decide) []), bodyStep, if_pos rfl]
  rfl

/-- A text with closed quoted runs is read to its end if its brackets close nothing that is not
open, and then the brackets after them are open. -/
theorem exists_run_of_outline {previous : Option Char} (h : Outline previous t word)
    (hq : s.quote = none) (hregex : s.current.regex = none) (hprevious : s.previous = previous)
    (ht : Markless t) {stack : List Char} (hstack : openAfter s.brackets word = some stack) :
    ∃ s', run s t = .ok s' ∧ s'.quote = none ∧ s'.brackets = stack := by
  induction h generalizing s with
  | nil =>
    refine ⟨s, by rw [run], hq, ?_⟩
    exact Option.some.inj hstack
  | backslash =>
    refine ⟨{ s.addBody ['\\'] with previous := some '\\' }, ?_, hq, Option.some.inj hstack⟩
    rw [run_cons (step_backslash hq hregex), List.drop_nil, run]
    rfl
  | @escape previous c t word _ ih =>
    rw [run_cons (step_escape hq hregex t)]
    exact ih hq hregex rfl (ht.of_suffix (List.suffix_append ['\\', c] t)) hstack
  | @quoted previous q r t word hquote hopens hr _ ih =>
    have hlast : (q :: r).getLast? = some q := by rw [List.getLast?_cons, hr.getLast?]; rfl
    rw [run_quotation hquote hr hq hregex (by rw [hprevious, hopens])]
    exact ih (s := s.readBody (q :: r)) hq hregex (readBody_previous s _ hlast)
      (ht.of_suffix (List.suffix_append (q :: r) t)) hstack
  | @bracket previous c t word hc _ ih =>
    have hrest : Markless t := ht.of_suffix (List.suffix_cons c t)
    rw [openAfter_cons] at hstack
    obtain ⟨stack', hstack', hafter⟩ := Option.bind_eq_some_iff.mp hstack
    rw [isBracket, Bool.or_eq_true] at hc
    rcases hc with hc | hc
    · rw [afterBracket_opener hc] at hstack'
      cases hstack'
      rw [run_cons (step_opener hq hregex hc t)]
      exact ih hq hregex rfl hrest hafter
    · obtain ⟨o, ho⟩ := Option.isSome_iff_exists.mp hc
      have hbrackets := (afterBracket_closer ho).mp hstack'
      rw [run_cons (step_closer hq hregex ho hbrackets t)]
      exact ih hq hregex rfl hrest hafter
  | @plain previous c t word hescape hquote hbracket _ ih =>
    subst hprevious
    rw [run_cons (step_of_no_bracket hq hregex ht hescape hquote hbracket)]
    exact ih hq hregex rfl (ht.of_suffix (List.suffix_cons c t)) hstack

/-- A closing bracket is read only if its opening bracket is the innermost one that is open. -/
theorem brackets_of_step_closer {c o : Char} {cs : Text} {r : Scan × Nat} (hq : s.quote = none)
    (hregex : s.current.regex = none) (hc : opener? c = some o) (h : s.step c cs = .ok r) :
    ∃ outer, s.brackets = o :: outer := by
  have hcloser : s.Unmarked (c :: cs) ∧ c ≠ '\\' ∧ isQuote c = false ∧ isOpener c = false := by
    rcases closer_cases hc with rfl | rfl | rfl <;>
      exact ⟨unmarked_cons (by decide) (by decide) cs, by decide, by decide, by decide⟩
  obtain ⟨hunmarked, hescape, hquote, hopener⟩ := hcloser
  rw [step_of_body hq hregex hunmarked, bodyStep, if_neg hescape, hquote, hopener, hc] at h
  cases hbrackets : s.brackets with
  | nil => simp [hbrackets] at h
  | cons b outer =>
    by_cases hb : b = o
    · exact ⟨outer, by rw [hb]⟩
    · simp [hbrackets, hb] at h

/-- What there is to read of a text, inside the quoted run that `quote` opened or outside of all:
the rest of the run and what comes after it, or the text as it is. -/
def Continues (quote previous : Option Char) (t : Text) (word : List Char) : Prop :=
  match quote with
  | none => Outline previous t word
  | some q => ∃ r u, t = r ++ u ∧ Quoted q r ∧ Outline (some q) u word

/-- A step inside a quoted run goes on with the run or closes it. -/
theorem continues_of_quotedStep {q c : Char} {cs : Text} {extra : Nat}
    (hstep : s.quotedStep q c cs = (s', extra))
    (hrest : Continues s'.quote (c :: cs)[extra]? (cs.drop extra) word) (hq : s.quote = some q) :
    s'.brackets = s.brackets ∧ Continues (some q) s.previous (c :: cs) word := by
  unfold quotedStep at hstep
  by_cases hc : c = '\\'
  · rw [if_pos hc] at hstep
    subst hc
    cases cs with
    | nil =>
      -- A run that ends in a backslash is not closed.
      cases hstep
      rw [show (s.addBody ['\\']).quote = some q from hq] at hrest
      obtain ⟨r, u, hru, hr, -⟩ := hrest
      obtain ⟨rfl, -⟩ := List.append_eq_nil_iff.mp hru.symm
      cases hr
    | cons d t =>
      cases hstep
      rw [show (s.addBody ['\\', d]).quote = some q from hq] at hrest
      obtain ⟨r, u, hru, hr, hu⟩ := hrest
      refine ⟨rfl, '\\' :: d :: r, u, ?_, hr.escape, hu⟩
      exact congrArg (fun t => '\\' :: d :: t) hru
  · rw [if_neg hc] at hstep
    cases hstep
    by_cases hclose : c = q
    · subst hclose
      rw [if_pos rfl] at hrest
      exact ⟨rfl, [c], cs, rfl, .close, hrest⟩
    · rw [if_neg hclose] at hrest
      obtain ⟨r, u, hru, hr, hu⟩ := hrest
      exact ⟨rfl, c :: r, u, congrArg (c :: ·) hru, hr.plain hc hclose, hu⟩

/-- A step outside of quoted runs reads what an outline reads: a backslash with the character after
it, the opening of a quoted run, a bracket or a character that stands for itself. -/
theorem exists_continues_of_step {c : Char} {cs : Text} {extra : Nat} {stack : List Char}
    (hstep : s.step c cs = .ok (s', extra)) (hq : s.quote = none)
    (hregex : s.current.regex = none) (ht : Markless (c :: cs))
    (hrest : Continues s'.quote (c :: cs)[extra]? (cs.drop extra) word)
    (hstack : openAfter s'.brackets word = some stack) :
    ∃ word, Outline s.previous (c :: cs) word ∧ openAfter s.brackets word = some stack := by
  by_cases hescape : c = '\\'
  · subst hescape
    cases cs with
    | nil =>
      rw [step_backslash hq hregex] at hstep
      cases hstep
      rw [show (s.addBody ['\\']).quote = none from hq] at hrest
      cases hrest
      exact ⟨[], .backslash, hstack⟩
    | cons d t =>
      rw [step_escape hq hregex] at hstep
      cases hstep
      rw [show (s.addBody ['\\', d]).quote = none from hq] at hrest
      exact ⟨word, .escape hrest, hstack⟩
  by_cases hquote : (isQuote c && opensQuote s.previous) = true
  · obtain ⟨hmark, hopens⟩ := Bool.and_eq_true_iff.mp hquote
    rw [step_quote hq hregex hmark hopens] at hstep
    cases hstep
    obtain ⟨r, u, hru, hr, hu⟩ := hrest
    rw [show cs = r ++ u from hru]
    exact ⟨word, .quoted hmark hopens hr hu, hstack⟩
  by_cases hbracket : isBracket c = true
  · refine ⟨c :: word, ?_⟩
    rw [openAfter_cons]
    have hkind := hbracket
    rw [isBracket, Bool.or_eq_true] at hkind
    rcases hkind with hopener | hcloser
    · rw [step_opener hq hregex hopener] at hstep
      cases hstep
      rw [afterBracket_opener hopener]
      exact ⟨.bracket hbracket (by simpa [Continues, addBody, hq] using hrest), hstack⟩
    · obtain ⟨o, ho⟩ := Option.isSome_iff_exists.mp hcloser
      obtain ⟨outer, houter⟩ := brackets_of_step_closer hq hregex ho hstep
      rw [step_closer hq hregex ho houter] at hstep
      cases hstep
      rw [(afterBracket_closer ho).mpr houter]
      exact ⟨.bracket hbracket (by simpa [Continues, addBody, hq] using hrest), hstack⟩
  · rw [Bool.not_eq_true] at hquote hbracket
    rw [step_of_no_bracket hq hregex ht hescape hquote hbracket] at hstep
    cases hstep
    exact ⟨word, .plain hescape hquote hbracket (by simpa [Continues, addBody, hq] using hrest),
      hstack⟩

/-- A text that is read to its end outside of quoted runs has its quoted runs closed, and its
brackets lead from those open before it to those open after it. -/
theorem exists_outline_of_run (h : run s t = .ok s') (hend : s'.quote = none)
    (hregex : s.current.regex = none) (ht : Markless t) :
    ∃ word, Continues s.quote s.previous t word ∧
      openAfter s.brackets word = some s'.brackets := by
  fun_induction run s t with
  | case1 s =>
    cases h
    rw [hend]
    exact ⟨[], .nil, rfl⟩
  | case2 s c cs fault hstep => cases h
  | case3 s c cs s₁ extra hstep ih =>
    have hregex₁ : s₁.current.regex = none := by
      rw [(step_of_markless hregex ht hstep).2]
      exact hregex
    have hrest : Markless (cs.drop extra) :=
      ht.of_suffix ((List.drop_suffix extra cs).trans (List.suffix_cons c cs))
    obtain ⟨word, hword, hstack⟩ := ih h hregex₁ hrest
    cases hq : s.quote with
    | some q =>
      rw [step_of_quote hq, Except.ok.injEq] at hstep
      obtain ⟨hbrackets, hcontinues⟩ := continues_of_quotedStep hstep hword hq
      exact ⟨word, hcontinues, hbrackets ▸ hstack⟩
    | none => exact exists_continues_of_step hstep hq hregex ht hword hstack

end Scan

/-! ### Rules -/

/-- A text without marks is read as a whole, with nothing left open, exactly if it is balanced. -/
theorem exists_run_iff_isBalanced {t : Text} (ht : Markless t) :
    (∃ s, Scan.run {} t = .ok s ∧ s.quote = none ∧ s.brackets = []) ↔ IsBalanced t := by
  constructor
  · rintro ⟨s, hrun, hquote, hbrackets⟩
    obtain ⟨word, hword, hstack⟩ := Scan.exists_outline_of_run hrun hquote rfl ht
    exact ⟨word, hword, balanced_iff.mpr (hbrackets ▸ hstack)⟩
  · rintro ⟨word, hword, hbalanced⟩
    exact Scan.exists_run_of_outline hword rfl rfl rfl ht (balanced_iff.mp hbalanced)

/-- A text without marks compiles if it is balanced. -/
theorem exists_compile_of_isBalanced {t : Text} (ht : Trimmed t) (hmarks : Markless t)
    (h : IsBalanced t) (mode : Mode) : ∃ rule, compile t mode = .ok rule := by
  obtain ⟨s, hrun, hquote, hbrackets⟩ := (exists_run_iff_isBalanced hmarks).mpr h
  obtain ⟨hdone, hcurrent⟩ := Scan.run_of_markless rfl hmarks hrun
  have hblank : s.current.isBlank = false := by
    have hbody : Text.isBlankText t = false := by
      rw [← ht.2, Text.isBlankText_trim]
      simpa using ht.trim_ne_nil
    rw [hcurrent]
    simp [Segment.isBlank, hbody]
  have hsplit : splitSteps (Text.trim t) = .ok [{ body := t }] := by
    rw [ht.2]
    refine splitSteps_eq_ok_iff.mpr ⟨s, hrun, hquote, hbrackets, hblank, ?_⟩
    rw [hdone, hcurrent]
    rfl
  have hstep : [({ body := t } : Segment)].mapM (compileSegment mode) =
      .ok [plainStep (Text.trim (resolveMode mode (Text.trim t)).2)
        (resolveMode mode (Text.trim t)).1] := by
    rw [List.mapM_cons, compileSegment_body]
    rfl
  exact ⟨⟨_⟩, (compile_eq_ok_iff ht.trim_ne_nil).mpr ⟨_, hsplit, hstep⟩⟩

/-- All that compiling can find is that the text is malformed. -/
theorem malformed_of_compile {raw : Text} {mode : Mode} {e : RuleError}
    (h : compile raw mode = .error e) : ∃ fault, e = .malformed (Text.trim raw) fault := by
  unfold compile at h
  split at h
  · cases h
  · split at h
    · cases h
    · next fault _ =>
      cases h
      exact ⟨fault, rfl⟩

/-- A text without marks, and without blanks at its ends, compiles exactly if its quoted runs are
closed and its brackets outside of them properly nested. It is one step then, without scripts and
replacement; else it is malformed. -/
theorem compile_iff_isBalanced {t : Text} (ht : Trimmed t) (hmarks : Markless t) (mode : Mode) :
    ((∃ rule, compile t mode = .ok rule) ↔ IsBalanced t) ∧
    (∀ rule, compile t mode = .ok rule →
      rule.steps = [plainStep (Text.trim (resolveMode mode t).2) (resolveMode mode t).1]) ∧
    ∀ e, compile t mode = .error e → ∃ fault, e = .malformed t fault := by
  refine ⟨⟨?_, fun h => exists_compile_of_isBalanced ht hmarks h mode⟩, ?_, ?_⟩
  · rintro ⟨rule, hrule⟩
    obtain ⟨segments, hsegments, -⟩ := (compile_eq_ok_iff ht.trim_ne_nil).mp hrule
    obtain ⟨s, hrun, hquote, hbrackets, -⟩ := splitSteps_eq_ok_iff.mp hsegments
    rw [ht.2] at hrun
    exact (exists_run_iff_isBalanced hmarks).mp ⟨s, hrun, hquote, hbrackets⟩
  · intro rule hrule
    have hsteps := steps_of_markless (by rwa [ht.2]) ht.trim_ne_nil hrule
    rwa [ht.2] at hsteps
  · intro e he
    obtain ⟨fault, hfault⟩ := malformed_of_compile he
    exact ⟨fault, by rwa [ht.2] at hfault⟩

/-- In the first text an apostrophe, an escaped bracket and what stands between quotation marks do
not count; in the second one the same brackets cross each other. -/
theorem compile_iff_isBalanced_crossed :
    let nested := "p[it's\\) (\"]\\\"\")]".toList
    let crossed := "p[it's\\) (\"]\\\"\"])".toList
    (Trimmed nested ∧ Markless nested ∧ (∃ rule, compile nested .css = .ok rule) ∧
      IsBalanced nested) ∧
    (Trimmed crossed ∧ Markless crossed ∧ ¬ IsBalanced crossed ∧
      ∃ fault, compile crossed .css = .error (.malformed crossed fault)) := by
  intro nested crossed
  have hnested : Trimmed nested ∧ Markless nested :=
    ⟨by decide, by decide, by decide, by decide, by decide⟩
  have hcrossed : Trimmed crossed ∧ Markless crossed :=
    ⟨by decide, by decide, by decide, by decide, by decide⟩
  have hsome : (compile nested .css).toOption.isSome = true := by decide +kernel
  have hnone : (compile crossed .css).toOption.isSome = false := by decide +kernel
  constructor
  · obtain ⟨rule, hrule⟩ := Option.isSome_iff_exists.mp hsome
    have hcompiled : ∃ rule, compile nested .css = .ok rule :=
      ⟨rule, eq_ok_of_toOption hrule⟩
    exact ⟨hnested.1, hnested.2, hcompiled,
      (compile_iff_isBalanced hnested.1 hnested.2 .css).1.mp hcompiled⟩
  · obtain ⟨hiff, -, hfault⟩ := compile_iff_isBalanced hcrossed.1 hcrossed.2 .css
    cases hcompiled : compile crossed .css with
    | ok rule =>
      rw [hcompiled] at hnone
      cases hnone
    | error e =>
      refine ⟨hcrossed.1, hcrossed.2, fun hbalanced => ?_, ?_⟩
      · obtain ⟨rule, hrule⟩ := hiff.mpr hbalanced
        rw [hrule] at hcompiled
        cases hcompiled
      · obtain ⟨fault, rfl⟩ := hfault e hcompiled
        exact ⟨fault, rfl⟩

end Extraction.Rule
