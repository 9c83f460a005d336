import Extraction.Proofs.LetterTables
import Extraction.Proofs.Outcomes
import Extraction.Proofs.SegmentScan

/-!
# What follows an arrow

A scan that has closed a segment at an arrow goes on side by side with the scan of what follows the
arrow alone, but for the segments before it and for the blanks that its first body begins with.

## Main definitions

* `Segment.Like`: two segments that write the same step
* `Scan.Follows`: a scan that goes side by side with another one, after segments of its own
* `Segment.cut`: a segment as an arrow leaves it
* `joint`: an arrow between blanks
-/

namespace Extraction.Rule

open Text

theorem trimStart_append_congr {x y : Text} (h : trimStart x = trimStart y) (t : Text) :
    trimStart (x ++ t) = trimStart (y ++ t) := by
  by_cases hx : AllBlank x
  · have hy : AllBlank y := trimStart_eq_nil_iff.1 (h ▸ trimStart_eq_nil_iff.2 hx)
    rw [trimStart_append_of_allBlank hx, trimStart_append_of_allBlank hy]
  · have hy : ¬ AllBlank y := fun hy =>
      hx (trimStart_eq_nil_iff.1 (h.trans (trimStart_eq_nil_iff.2 hy)))
    rw [trimStart_append_of_not_allBlank hx, trimStart_append_of_not_allBlank hy, h]

/-- The two segments are the same but for blanks at the front of their bodies. -/
structure Segment.Like (x y : Segment) : Prop where
  body : trimStart x.body = trimStart y.body
  regex : x.regex = y.regex
  scripts : x.scripts = y.scripts

namespace Segment.Like

variable {x y : Segment}

theorem isBlank_eq (h : x.Like y) : x.isBlank = y.isBlank := by
  have hbody : isBlankText x.body = isBlankText y.body := by
    rw [Bool.eq_iff_iff, isBlankText_iff, isBlankText_iff, ← trimStart_eq_nil_iff,
      ← trimStart_eq_nil_iff, h.body]
  rw [isBlank, isBlank, hbody, h.regex, h.scripts]

/-- Segments that are alike write the same step. -/
theorem compileSegment_eq (h : x.Like y) (mode : Mode) :
    compileSegment mode x = compileSegment mode y := by
  have hbody : trim x.body = trim y.body := by
    rw [trim, trim, h.body]
  rw [compileSegment, compileSegment, hbody, h.regex, h.scripts]

end Segment.Like

namespace Scan

/-- The scan `s'` goes side by side with `s`, after the segments `done`. -/
structure Follows (done : List Segment) (s s' : Scan) : Prop where
  segments : ∃ later, s'.segments = done ++ later ∧ List.Forall₂ Segment.Like s.segments later
  current : s.current.Like s'.current
  brackets : s'.brackets = s.brackets
  quote : s'.quote = s.quote
  opens : opensQuote s'.previous = opensQuote s.previous

namespace Follows

variable {done : List Segment} {s s' s₁ : Scan} {c : Char} {cs : Text} {extra : Nat}

theorem addBody (h : Follows done s s') (t : Text) : Follows done (s.addBody t) (s'.addBody t) :=
  ⟨h.segments, ⟨trimStart_append_congr h.current.body t, h.current.regex, h.current.scripts⟩,
    h.brackets, h.quote, h.opens⟩

theorem addScript (h : Follows done s s') (t : Text) :
    Follows done (s.addScript t) (s'.addScript t) :=
  ⟨h.segments, ⟨h.current.body, h.current.regex, congrArg (· ++ [trim t]) h.current.scripts⟩,
    h.brackets, h.quote, h.opens⟩

theorem setRegex (h : Follows done s s') (t : Text) :
    Follows done (s.setRegex t) (s'.setRegex t) :=
  ⟨h.segments, ⟨h.current.body, rfl, h.current.scripts⟩, h.brackets, h.quote, h.opens⟩

theorem withQuote (h : Follows done s s') (q : Option Char) :
    Follows done { s with quote := q } { s' with quote := q } :=
  ⟨h.segments, h.current, h.brackets, rfl, h.opens⟩

theorem withBrackets (h : Follows done s s') (brackets : List Char) :
    Follows done { s with brackets } { s' with brackets } :=
  ⟨h.segments, h.current, rfl, h.quote, h.opens⟩

theorem withPrevious (h : Follows done s s') (previous : Option Char) :
    Follows done { s with previous } { s' with previous } :=
  ⟨h.segments, h.current, h.brackets, h.quote, rfl⟩

theorem close (h : Follows done s s') (hclose : s.close = .ok s₁) :
    ∃ s₁', s'.close = .ok s₁' ∧ Follows done s₁ s₁' := by
  obtain ⟨hblank, rfl⟩ := close_eq_ok_iff.1 hclose
  obtain ⟨later, hlater, hlike⟩ := h.segments
  refine ⟨_, close_of_not_blank (h.current.isBlank_eq ▸ hblank),
    ⟨later ++ [s'.current], ?_, ?_⟩, ⟨rfl, rfl, rfl⟩, h.brackets, h.quote, h.opens⟩
  · rw [← List.append_assoc, ← hlater]
  · exact List.rel_append hlike (.cons h.current .nil)

theorem escapeStep (h : Follows done s s') (cs : Text) :
    (s'.escapeStep cs).2 = (s.escapeStep cs).2 ∧
      Follows done (s.escapeStep cs).1 (s'.escapeStep cs).1 := by
  cases cs with
  | nil => exact ⟨rfl, h.addBody _⟩
  | cons d cs => exact ⟨rfl, h.addBody _⟩

theorem quotedStep (h : Follows done s s') (q c : Char) (cs : Text) :
    (s'.quotedStep q c cs).2 = (s.quotedStep q c cs).2 ∧
      Follows done (s.quotedStep q c cs).1 (s'.quotedStep q c cs).1 := by
  unfold Scan.quotedStep
  split
  · exact h.escapeStep cs
  · exact ⟨rfl, (h.addBody [c]).withQuote _⟩

theorem regexStep (h : Follows done s s') {regex : Text}
    (hstep : s.regexStep regex c cs = .ok (s₁, extra)) :
    ∃ s₁', s'.regexStep regex c cs = .ok (s₁', extra) ∧ Follows done s₁ s₁' := by
  rcases regexStep_cases hstep with ⟨hends, harrow, s₂, hclose, hr⟩ | ⟨hplain, hr⟩
  · cases hr
    obtain ⟨s₁', hclose', hfollows⟩ := (h.setRegex (trimEnd regex)).close hclose
    unfold Scan.regexStep
    rw [hends, List.isPrefixOf_iff_prefix.2 harrow, hclose']
    exact ⟨s₁', rfl, hfollows⟩
  · cases hr
    exact ⟨_, regexStep_plain hplain, h.setRegex _⟩

theorem bodyStep (h : Follows done s s') (hstep : s.bodyStep c cs = .ok (s₁, extra)) :
    ∃ s₁', s'.bodyStep c cs = .ok (s₁', extra) ∧ Follows done s₁ s₁' := by
  unfold Scan.bodyStep at hstep ⊢
  rw [h.opens, h.brackets]
  -- The two steps test the same things now, so the branch of the one is the branch of the other.
  split at hstep
  · next hc =>
    rw [if_pos hc]
    have hescape := h.escapeStep cs
    rw [Except.ok.inj hstep] at hescape
    exact ⟨_, congrArg Except.ok (Prod.ext rfl hescape.1), hescape.2⟩
  · next hc =>
    rw [if_neg hc]
    split at hstep
    · next hquote =>
      rw [if_pos hquote]
      cases hstep
      exact ⟨_, rfl, (h.addBody [c]).withQuote _⟩
    · next hquote =>
      rw [if_neg hquote]
      split at hstep
      · next hopener =>
        rw [if_pos hopener]
        cases hstep
        exact ⟨_, rfl, (h.addBody [c]).withBrackets _⟩
      · next hopener =>
        rw [if_neg hopener]
        split at hstep
        · next o ho =>
          split at hstep
          · cases hstep
          · next b outer hbrackets =>
            split at hstep
            · next hb =>
              cases hstep
              simp only [if_pos hb]
              exact ⟨_, rfl, (h.addBody [c]).withBrackets _⟩
            · cases hstep
        · next ho =>
          split at hstep
          · next harrow =>
            simp only [if_pos harrow]
            cases hclose : s.close with
            | error fault => rw [hclose] at hstep; cases hstep
            | ok s₂ =>
              rw [hclose] at hstep
              cases hstep
              obtain ⟨s₂', hclose', hfollows⟩ := h.close hclose
              rw [hclose']
              exact ⟨s₂', rfl, hfollows⟩
          · next harrow =>
            simp only [if_neg harrow]
            split at hstep
            · next hfence =>
              rw [if_pos hfence]
              cases hstep
              exact ⟨_, rfl, h.setRegex _⟩
            · next hfence =>
              rw [if_neg hfence]
              cases hstep
              exact ⟨_, rfl, h.addBody _⟩

/-- One step of the two scans. -/
theorem step (h : Follows done s s') (hstep : s.step c cs = .ok (s₁, extra)) :
    ∃ s₁', s'.step c cs = .ok (s₁', extra) ∧ Follows done s₁ s₁' := by
  rcases step_cases hstep with ⟨q, hq, hr⟩ | ⟨hq, rest, script, after, htext, hcut, hr⟩ |
    ⟨hq, hopen, hbrackets, script, hscript, hr⟩ | ⟨hq, hunmarked, hr⟩
  · have hquoted := h.quotedStep q c cs
    rw [hr] at hquoted
    rw [step_of_quote (h.quote.trans hq)]
    exact ⟨_, congrArg Except.ok (Prod.ext rfl hquoted.1), hquoted.2⟩
  · rw [step_of_script (h.quote.trans hq) htext hcut]
    cases hr
    exact ⟨_, rfl, h.addScript script⟩
  · rw [step_of_rest (h.quote.trans hq) hopen (h.brackets.trans hbrackets) hscript]
    cases hr
    exact ⟨_, rfl, h.addScript script⟩
  · have hunmarked' : s'.Unmarked (c :: cs) :=
      ⟨hunmarked.scriptOpen, fun hempty => hunmarked.scriptRest (h.brackets ▸ hempty)⟩
    rw [step_of_unmarked (h.quote.trans hq) hunmarked']
    unfold zoneStep at hr ⊢
    rw [← h.current.regex]
    split at hr
    · exact h.regexStep hr
    · exact h.bodyStep hr

/-- The two scans to the end of a text. -/
theorem run {text : Text} (h : Follows done s s') (hrun : Scan.run s text = .ok s₁) :
    ∃ s₁', Scan.run s' text = .ok s₁' ∧ Follows done s₁ s₁' := by
  fun_induction Scan.run s text generalizing s' with
  | case1 s =>
    cases hrun
    exact ⟨s', by rw [Scan.run], h⟩
  | case2 s c cs fault hstep => cases hrun
  | case3 s c cs s₂ extra hstep ih =>
    obtain ⟨s₂', hstep', hfollows⟩ := h.step hstep
    rw [run_cons hstep']
    exact ih (hfollows.withPrevious _) hrun

/-- The blanks before a text are not part of what its first body comes to. -/
theorem of_blanks {blanks : Text} (hb : AllBlank blanks) {previous : Option Char}
    (hprevious : opensQuote previous = true) :
    Follows done {} { segments := done, current := { body := blanks }, previous } :=
  ⟨⟨[], (List.append_nil done).symm, .nil⟩, ⟨(trimStart_eq_nil_iff.2 hb).symm, rfl, rfl⟩, rfl, rfl,
    hprevious⟩

end Follows

end Scan

/-- The segment as an arrow leaves it, without the blanks at the end of the text after its fence. -/
def Segment.cut (x : Segment) : Segment := { x with regex := x.regex.map trimEnd }

theorem endsBlank_append {blanks : Text} (hb : AllBlank blanks) (hne : blanks ≠ []) (t : Text) :
    Scan.endsBlank (t ++ blanks) = true := by
  rw [Scan.endsBlank, List.getLast?_append_of_ne_nil t hne, List.getLast?_eq_some_getLast hne]
  exact hb _ (List.getLast_mem hne)

namespace Scan

/-- Blanks and an arrow end the segment under way. -/
theorem run_arrow {s : Scan} (hq : s.quote = none) (hbrackets : s.brackets = [])
    (hblank : s.current.isBlank = false) {blanks : Text} (hb : AllBlank blanks) (hne : blanks ≠ [])
    (t : Text) :
    ∃ x, run s (blanks ++ '-' :: '>' :: t) =
        run { segments := s.segments ++ [x], previous := some '>' } t ∧
      ∀ mode, compileSegment mode x = compileSegment mode s.current.cut := by
  rw [run_blanks hq hb]
  obtain ⟨segments, ⟨body, regex, scripts⟩, brackets, quote, previous⟩ := s
  cases hq
  cases hbrackets
  cases regex with
  | none =>
    refine ⟨⟨body ++ blanks, none, scripts⟩, ?_, fun mode => ?_⟩
    · have hblank' : (Segment.mk (body ++ blanks) none scripts).isBlank = false := by
        have hbody : isBlankText (body ++ blanks) = isBlankText body := by
          rw [isBlankText, List.all_append,
            show blanks.all isBlank = true from isBlankText_iff.2 hb, Bool.and_true]
          rfl
        rw [Segment.isBlank, hbody]
        exact hblank
      rw [read_of_body _ _ rfl, run_cons (step_arrow_of_body rfl rfl rfl hblank' t)]
      rfl
    · rw [compileSegment, compileSegment, Segment.cut, trim_append_of_allBlank hb]
      rfl
  | some regex =>
    refine ⟨⟨body, some (trimEnd regex), scripts⟩, ?_, fun mode => rfl⟩
    rw [read_of_regex _ _ rfl,
      run_cons (step_arrow_of_regex rfl rfl (endsBlank_append hb hne regex) t),
      trimEnd_append_of_allBlank hb]
    rfl

/-- A scan that is done with a segment goes on, behind an arrow between blanks, as the scan of what
follows. -/
theorem run_joint {s sb : Scan} (hq : s.quote = none) (hbrackets : s.brackets = [])
    (hblank : s.current.isBlank = false) {before after b : Text} (hbefore : AllBlank before)
    (hne : before ≠ []) (hafter : AllBlank after) (hb : run {} b = .ok sb) :
    ∃ x s', run s (before ++ '-' :: '>' :: (after ++ b)) = .ok s' ∧
      Follows (s.segments ++ [x]) sb s' ∧
      ∀ mode, compileSegment mode x = compileSegment mode s.current.cut := by
  obtain ⟨x, hrun, hx⟩ := run_arrow hq hbrackets hblank hbefore hne (after ++ b)
  have hstart : Follows (s.segments ++ [x]) {}
      (read { segments := s.segments ++ [x], previous := some '>' } after) := by
    rw [read_of_body _ _ rfl]
    exact Follows.of_blanks hafter (opensQuote_getLast_of_allBlank hafter rfl)
  obtain ⟨s', hs', hfollows⟩ := hstart.run hb
  exact ⟨x, s', (hrun.trans (run_blanks rfl hafter b)).trans hs', hfollows, hx⟩

end Scan

/-! ### Segments and steps -/

theorem mapM_compileSegment_congr {xs ys : List Segment} (h : List.Forall₂ Segment.Like xs ys)
    (mode : Mode) : xs.mapM (compileSegment mode) = ys.mapM (compileSegment mode) := by
  induction h with
  | nil => rfl
  | cons hxy _ ih => rw [List.mapM_cons, List.mapM_cons, hxy.compileSegment_eq, ih]

/-- What stands between two rules that are joined. -/
def joint : Text := [' ', '-', '>', ' ']

/-- A scan that is done with a segment, an arrow between blanks and a text that is a rule: the
segments before, the segment under way, cut, and those of the rule but for blanks. -/
theorem splitSteps_of_run {a b : Text} {s : Scan} (hq : s.quote = none)
    (hbrackets : s.brackets = []) (hblank : s.current.isBlank = false) {before after : Text}
    (hbefore : AllBlank before) (hne : before ≠ []) (hafter : AllBlank after) {ys : List Segment}
    (hb : splitSteps b = .ok ys)
    (hrun : Scan.run {} (a ++ (before ++ '-' :: '>' :: (after ++ b))) =
      Scan.run s (before ++ '-' :: '>' :: (after ++ b))) :
    ∃ x later, splitSteps (a ++ (before ++ '-' :: '>' :: (after ++ b))) =
        .ok (s.segments ++ [x] ++ later) ∧
      List.Forall₂ Segment.Like ys later ∧
      ∀ mode, compileSegment mode x = compileSegment mode s.current.cut := by
  obtain ⟨sb, hrunb, hqb, hbracketsb, hblankb, rfl⟩ := splitSteps_eq_ok_iff.1 hb
  obtain ⟨x, s', hrun', hfollows, hx⟩ :=
    Scan.run_joint hq hbrackets hblank hbefore hne hafter hrunb
  obtain ⟨later, hlater, hlike⟩ := hfollows.segments
  refine ⟨x, later ++ [s'.current], ?_, List.rel_append hlike (.cons hfollows.current .nil), hx⟩
  refine splitSteps_eq_ok_iff.2 ⟨s', hrun.trans hrun', hfollows.quote.trans hqb,
    hfollows.brackets.trans hbracketsb, hfollows.current.isBlank_eq.symm.trans hblankb, ?_⟩
  rw [hlater, List.append_assoc]

end Extraction.Rule
