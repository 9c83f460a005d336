import Extraction.Proofs.ReplacementText
import Extraction.Proofs.ScanFollows
import Extraction.Proofs.SelectorText

/-!
# Rules that are written

A rule is written from steps: the hint and the selector of each step, its replacement behind a
fence, and its scripts, with an arrow between blanks from one step to the next. What is compiled
from it is the steps that it was written from, whatever the default dialect.

## Main definitions

* `WrittenStep`: a step as it is written
* `WrittenStep.meaning`: the step that is meant
* `writeRule`: the rule that steps are written as
-/

namespace Extraction.Rule

open Text

/-- A script that can be written between its marks. -/
structure WrittenScript where
  source : Text
  trim_source : trim source = source
  not_scriptClose : ¬ scriptClose <:+: source

/-- A step as it is written. -/
structure WrittenStep where
  mode : Mode
  selector : Text
  replacement : Option WrittenReplacement
  scripts : List WrittenScript
  trim_selector : trim selector = selector
  nested : Nested false none selector
  last_ne : selector.getLast? ≠ some '#'

/-- The script between its marks. -/
def WrittenScript.text (x : WrittenScript) : Text := scriptOpen ++ (x.source ++ scriptClose)

namespace WrittenStep

/-- The hint and the selector. -/
def body (w : WrittenStep) : Text := w.mode.hint ++ w.selector

/-- The text that a step is written as. -/
def text (w : WrittenStep) : Text :=
  w.body ++
    ((w.replacement.elim [] fun r => fence ++ r.text) ++ w.scripts.flatMap WrittenScript.text)

/-- The step that is meant. -/
def meaning (w : WrittenStep) : Step where
  selector := w.selector
  mode := w.mode
  scripts := w.scripts.map WrittenScript.source
  replace := w.replacement.map WrittenReplacement.meaning

/-- The segment that a step is written in. -/
def segment (w : WrittenStep) : Segment where
  body := w.body
  regex := w.replacement.map WrittenReplacement.text
  scripts := w.scripts.map WrittenScript.source

end WrittenStep

/-- The rule that steps are written as. -/
def writeRule (steps : List WrittenStep) : Text := joint.intercalate (steps.map WrittenStep.text)

/-- The hint of a step is read back, whatever follows it. -/
theorem ofHint?_hint (mode : Mode) (t : Text) : Mode.ofHint? (mode.hint ++ t) = some (mode, t) := by
  cases mode <;> rfl

namespace WrittenStep

theorem getLast?_hint (mode : Mode) : mode.hint.getLast? = some ':' := by
  rw [Mode.hint, List.getLast?_concat]

theorem getLast?_body_ne (w : WrittenStep) : w.body.getLast? ≠ some '#' := by
  rw [body, List.getLast?_append, getLast?_hint]
  have hne := w.last_ne
  cases hlast : w.selector.getLast? with
  | none => decide
  | some c =>
    rw [hlast] at hne
    exact hne

theorem isBlank_getLast_body (w : WrittenStep) : ∀ c ∈ w.body.getLast?, isBlank c = false := by
  intro c hc
  rw [body, List.getLast?_append, getLast?_hint] at hc
  cases hlast : w.selector.getLast? with
  | none =>
    rw [hlast] at hc
    cases hc
    decide
  | some d =>
    rw [hlast] at hc
    refine isBlank_getLast_trim w.selector c ?_
    rw [w.trim_selector, hlast]
    exact hc

theorem trim_body (w : WrittenStep) : trim w.body = w.body := by
  refine trim_eq_self (fun c hc => ?_) w.isBlank_getLast_body
  obtain rfl : '@' = c := Option.some.inj hc
  decide

/-- A step is compiled from its segment. -/
theorem compileSegment_segment (w : WrittenStep) (mode : Mode) :
    compileSegment mode w.segment = .ok w.meaning := by
  have hresolve : resolveMode mode w.body = (w.mode, w.selector) := by
    rw [resolveMode, body, ofHint?_hint]
  unfold compileSegment segment meaning
  rw [w.trim_body, hresolve]
  cases w.replacement with
  | none =>
    simp only [w.trim_selector]
    rfl
  | some r =>
    simp only [Option.map_some, r.readReplacement_text, w.trim_selector]
    rfl

end WrittenStep

namespace Scan

/-- The scan with scripts taken into the current segment. -/
def addScripts (s : Scan) (scripts : List Text) : Scan :=
  { s with current := { s.current with scripts := s.current.scripts ++ scripts } }

/-- A script is taken, whatever follows it. -/
theorem run_script {s : Scan} (hq : s.quote = none) (x : WrittenScript) (t : Text) :
    run s (x.text ++ t) = run { s.addScripts [x.source] with previous := some '>' } t := by
  have hfirst : ∀ u v, x.source = u ++ v → v ≠ [] → ¬ scriptClose <+: v ++ (scriptClose ++ t) := by
    intro u v huv hv hp
    have hhead : ∀ d ∈ (scriptClose ++ t).head?, d ∉ scriptClose.tail := by
      intro d hd
      obtain rfl : '<' = d := Option.some.inj hd
      decide
    have hin : scriptClose <+: v := (prefix_append_iff hv hhead).1 hp
    exact x.not_scriptClose (hin.isInfix.trans (huv ▸ (List.suffix_append u v).isInfix))
  obtain ⟨w, hw⟩ : ∃ w, x.text = '<' :: w := ⟨_, rfl⟩
  have htext : '<' :: (w ++ t) = scriptOpen ++ (x.source ++ (scriptClose ++ t)) := by
    rw [← List.cons_append, ← hw, WrittenScript.text, List.append_assoc, List.append_assoc]
  have hlength : scriptOpen.length + x.source.length + scriptClose.length - 1 = w.length := by
    have hlen := congrArg List.length hw
    rw [WrittenScript.text, List.length_append, List.length_append, List.length_cons] at hlen
    omega
  have hlast : ('<' :: w).getLast? = some '>' := by
    rw [← hw, WrittenScript.text, List.getLast?_append, List.getLast?_append]
    rfl
  have hstep := step_of_script hq htext (splitOnce?_of_first hfirst)
  rw [hlength, addScript, x.trim_source] at hstep
  rw [hw, List.cons_append, run_cons_append hstep, hlast]
  rfl

theorem run_scripts {s : Scan} (hq : s.quote = none) (scripts : List WrittenScript) (t : Text) :
    ∃ previous, run s (scripts.flatMap WrittenScript.text ++ t) =
      run { s.addScripts (scripts.map WrittenScript.source) with previous } t := by
  induction scripts generalizing s with
  | nil =>
    refine ⟨s.previous, ?_⟩
    rw [List.map_nil, addScripts, List.append_nil]
    rfl
  | cons x scripts ih =>
    obtain ⟨previous, hrun⟩ := ih (s := { s.addScripts [x.source] with previous := some '>' }) hq
    refine ⟨previous, ?_⟩
    rw [List.flatMap_cons, List.append_assoc, run_script hq, hrun]
    simp [addScripts]

/-- What may follow a body: the text after a fence, a script, or what goes on with no mark. -/
theorem parts_text {t : Text} (ht : Parts t) (replacement : Option WrittenReplacement)
    (scripts : List WrittenScript) :
    Parts ((replacement.elim [] fun r => fence ++ r.text) ++
      (scripts.flatMap WrittenScript.text ++ t)) := by
  cases replacement with
  | some r => exact parts_cons (by decide) _
  | none =>
    cases scripts with
    | nil => exact ht
    | cons x scripts => exact parts_cons (by decide) _

/-- A step is read into one segment, up to what goes on with no mark. -/
theorem run_text (w : WrittenStep) {t : Text} (ht : Parts t) :
    ∃ previous, run {} (w.text ++ t) = run { current := w.segment, previous } t := by
  have hbody : run {} (w.body ++ ((w.replacement.elim [] fun r => fence ++ r.text) ++
      (w.scripts.flatMap WrittenScript.text ++ t))) = _ :=
    run_nested (w.nested.of_hint w.mode) rfl rfl rfl nofun (parts_text ht w.replacement w.scripts)
      fun _ _ => w.getLast?_body_ne
  rw [WrittenStep.text, List.append_assoc, List.append_assoc, hbody]
  unfold WrittenStep.segment
  cases w.replacement with
  | none =>
    obtain ⟨previous, hrun⟩ := run_scripts (s := readBody {} w.body) rfl w.scripts t
    exact ⟨previous, hrun⟩
  | some r =>
    have hfence := step_fence (s := readBody {} w.body) rfl rfl rfl
      (r.text ++ (w.scripts.flatMap WrittenScript.text ++ t))
    have hfenced := run_fenced (s := { (readBody {} w.body).setRegex [] with previous := some '#' })
      rfl rfl r.fenced_text nofun (parts_text ht none w.scripts)
    obtain ⟨previous, hrun⟩ := run_scripts
      (s := readRegex { (readBody {} w.body).setRegex [] with previous := some '#' } [] r.text) rfl
      w.scripts t
    refine ⟨previous, ?_⟩
    rw [Option.elim_some, List.append_assoc]
    exact (run_cons hfence).trans (hfenced.trans hrun)

end Scan

/-! ### The rule -/

theorem WrittenStep.isBlank_segment (w : WrittenStep) : w.segment.isBlank = false := by
  have hbody : isBlankText w.body = false := rfl
  rw [Segment.isBlank, segment, hbody, Bool.false_and, Bool.false_and]

/-- The text after the fence of a step ends in no blank that an arrow could cut off. -/
theorem WrittenStep.cut_segment (w : WrittenStep) : w.segment.cut = w.segment := by
  unfold segment Segment.cut
  cases w.replacement with
  | none => rfl
  | some r => rw [Option.map_some, Option.map_some, r.trimEnd_text]

theorem writeRule_cons (w : WrittenStep) {steps : List WrittenStep} (hne : steps ≠ []) :
    writeRule (w :: steps) = w.text ++ ([' '] ++ '-' :: '>' :: ([' '] ++ writeRule steps)) := by
  rw [writeRule, List.map_cons, List.intercalate_cons_of_ne_nil (by simpa using hne),
    List.append_assoc]
  rfl

/-- The segments of a rule that is written compile to the steps that are meant. -/
theorem splitSteps_writeRule {steps : List WrittenStep} (hne : steps ≠ []) (mode : Mode) :
    ∃ segments, splitSteps (writeRule steps) = .ok segments ∧
      segments.mapM (compileSegment mode) = .ok (steps.map WrittenStep.meaning) := by
  induction steps with
  | nil => exact (hne rfl).elim
  | cons w steps ih =>
    -- The last step ends with the rule; before an arrow it takes a blank that is cut off again.
    by_cases hsteps : steps = []
    · subst hsteps
      obtain ⟨previous, hrun⟩ := Scan.run_text w (t := []) nofun
      rw [List.append_nil, Scan.run] at hrun
      refine ⟨[w.segment], splitSteps_eq_ok_iff.2 ⟨{ current := w.segment, previous }, ?_, rfl,
        rfl, w.isBlank_segment, rfl⟩, ?_⟩
      · rw [writeRule, List.map_singleton, List.intercalate_singleton]
        exact hrun
      · rw [List.mapM_cons, w.compileSegment_segment]
        rfl
    · obtain ⟨ys, hsplit, hmap⟩ := ih hsteps
      obtain ⟨previous, hrun⟩ := Scan.run_text w
        (t := [' '] ++ '-' :: '>' :: ([' '] ++ writeRule steps)) (parts_cons (by decide) _)
      obtain ⟨x, later, hjoin, hlike, hx⟩ := splitSteps_of_run rfl rfl w.isBlank_segment
        allBlank_space (List.cons_ne_nil _ _) allBlank_space hsplit hrun
      refine ⟨_, writeRule_cons w hsteps ▸ hjoin, ?_⟩
      have hstep : compileSegment mode x = .ok w.meaning := by
        rw [hx mode, w.cut_segment, w.compileSegment_segment]
      have hnil : ([] : List Segment).mapM (compileSegment mode) = .ok [] := rfl
      have hlater := (mapM_compileSegment_congr hlike mode).symm.trans hmap
      exact (mapM_append_cons_eq_ok_iff hnil hlater).2 hstep

/-! ### The ends of the rule -/

theorem WrittenScript.getLast?_text (x : WrittenScript) : x.text.getLast? = some '>' := by
  rw [text, List.getLast?_append, List.getLast?_append]
  rfl

theorem WrittenStep.isBlank_getLast_text (w : WrittenStep) :
    ∀ c ∈ w.text.getLast?, isBlank c = false := by
  intro c hc
  rw [text] at hc
  rcases List.eq_nil_or_concat w.scripts with hscripts | ⟨scripts, x, hscripts⟩
  · rw [hscripts, List.flatMap_nil, List.append_nil] at hc
    cases hreplacement : w.replacement with
    | none =>
      rw [hreplacement, Option.elim_none, List.append_nil] at hc
      exact w.isBlank_getLast_body c hc
    | some r =>
      rw [hreplacement, Option.elim_some, List.getLast?_append, List.getLast?_append] at hc
      cases hlast : r.text.getLast? with
      | none =>
        rw [hlast] at hc
        cases hc
        decide
      | some d =>
        rw [hlast] at hc
        exact r.isBlank_getLast_text c (hlast ▸ hc)
  · rw [hscripts, List.concat_eq_append, List.flatMap_append, List.flatMap_singleton,
      List.getLast?_append, List.getLast?_append, List.getLast?_append, x.getLast?_text] at hc
    cases hc
    decide

theorem head?_writeRule {steps : List WrittenStep} (hne : steps ≠ []) :
    (writeRule steps).head? = some '@' := by
  obtain ⟨w, steps, rfl⟩ := List.exists_cons_of_ne_nil hne
  by_cases hsteps : steps = []
  · subst hsteps
    rfl
  · rw [writeRule_cons w hsteps]
    rfl

theorem isBlank_getLast_writeRule (steps : List WrittenStep) :
    ∀ c ∈ (writeRule steps).getLast?, isBlank c = false := by
  induction steps with
  | nil => exact nofun
  | cons w steps ih =>
    by_cases hsteps : steps = []
    · subst hsteps
      rw [writeRule, List.map_singleton, List.intercalate_singleton]
      exact w.isBlank_getLast_text
    · intro c hc
      have hassoc : w.text ++ ([' '] ++ '-' :: '>' :: ([' '] ++ writeRule steps)) =
          (w.text ++ joint) ++ writeRule steps := by simp [joint]
      have hne : writeRule steps ≠ [] := fun hnil => by
        have hhead := head?_writeRule hsteps
        rw [hnil] at hhead
        cases hhead
      rw [writeRule_cons w hsteps, hassoc, List.getLast?_append_of_ne_nil _ hne] at hc
      exact ih c hc

/-- What is compiled from a rule that is written are the steps that it was written from. -/
theorem compile_writeRule {steps : List WrittenStep} (hne : steps ≠ []) (mode : Mode) :
    compile (writeRule steps) mode = .ok ⟨steps.map WrittenStep.meaning⟩ := by
  have hhead := head?_writeRule hne
  have htrim : trim (writeRule steps) = writeRule steps := by
    refine trim_eq_self (fun c hc => ?_) (isBlank_getLast_writeRule steps)
    rw [hhead] at hc
    cases hc
    decide
  have hraw : trim (writeRule steps) ≠ [] := fun hnil => by
    rw [← htrim, hnil] at hhead
    cases hhead
  obtain ⟨segments, hsplit, hmap⟩ := splitSteps_writeRule hne mode
  exact (compile_eq_ok_iff hraw).2 ⟨segments, htrim.symm ▸ hsplit, hmap⟩

/-- A comment, taken apart by a group, of a link whose title holds an arrow. -/
def titledLink : WrittenStep where
  mode := .css
  selector := "a[title='x->y']".toList
  replacement := some {
    pattern := "<!--(.*?)-->".toList
    regex := (Regex.compile? "<!--(.*?)-->".toList).get (by decide +kernel)
    replacement := "$1 # ".toList
    group := some 1
    pattern_ne_nil := by decide
    compile?_pattern := (Option.some_get _).symm
    fencePart_pattern := ⟨⟨by decide +kernel, by decide +kernel,
      Fenced.arrow_of_all (by decide +kernel)⟩, by decide +kernel, by decide⟩
    fencePart_replacement := ⟨⟨by decide +kernel, by decide +kernel,
      Fenced.arrow_of_all (by decide +kernel)⟩, by decide +kernel, by decide⟩
    group_lt := fun g hg => by
      cases hg
      decide +kernel
    group_le := fun g hg => by
      cases hg
      decide +kernel
    endsBlank_text := by decide +kernel }
  scripts := [⟨"a->b".toList, by decide +kernel, by decide +kernel⟩]
  trim_selector := by decide +kernel
  nested := .of_ordinary (w := "a".toList) (by decide)
    (.bracketed (u := "title='x->y'".toList) rfl rfl
      (.of_ordinary (w := "title=".toList) (by decide)
        (.quoted rfl (by decide)
          (.plain (by decide) (by decide) (.plain (by decide) (by decide) (.plain (by decide)
            (by decide) (.plain (by decide) (by decide) .close)))) .nil)) .nil)
  last_ne := by decide

/-- A selector with an apostrophe. -/
def apostrophe : WrittenStep where
  mode := .text
  selector := "it's".toList
  replacement := none
  scripts := []
  trim_selector := by decide +kernel
  nested := .of_ordinary (w := "it".toList) (by decide)
    (.plain (by decide +kernel) (.of_ordinary (w := "s".toList) (by decide) .nil))
  last_ne := by decide

theorem compile_writeRule_titledLink :
    [titledLink, apostrophe] ≠ [] ∧
      writeRule [titledLink, apostrophe] =
        "@css:a[title='x->y']##<!--(.*?)-->##$1 # ##1<js>a->b</js> -> @text:it's".toList ∧
      compile (writeRule [titledLink, apostrophe]) .json =
        .ok ⟨[titledLink.meaning, apostrophe.meaning]⟩ :=
  ⟨List.cons_ne_nil _ _, by decide +kernel, compile_writeRule (List.cons_ne_nil _ _) .json⟩

end Extraction.Rule
