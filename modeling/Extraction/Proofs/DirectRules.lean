import Extraction.Proofs.NestedText
import Extraction.Proofs.ScriptWrites
import Extraction.Proofs.SegmentScan

/-!
# What direct rules read

A direct rule compiles to one plain step. So what it reads directly is what compiling it and taking
the first text gives, except where its look makes compiling take it for a location path and reading
it directly for a selector of elements.

## Main definitions

* `Rule.Markless`: a text without the marks that end a segment or begin a script
* `Rule.Direct`: the conditions on a direct rule, by name
-/

namespace Extraction

open Text (lowerAscii)

namespace Rule

/-! ### The conditions -/

/-- None of the marks that end a segment, begin its replacement or begin a script stands anywhere in
the text. -/
structure Markless (t : Text) : Prop where
  arrow : ¬ arrow <:+: t
  fence : ¬ fence <:+: t
  scriptOpen : ¬ scriptOpen <:+: t
  scriptRest : ¬ scriptRest <:+: lowerAscii t

/-- A rule without marks and placeholders that begins with no hint and does not look like a path
into JSON. -/
structure Direct (rule : Text) : Prop extends Markless rule where
  placeholder : ¬ Placeholder.opening <:+: rule
  hint : Mode.ofHint? rule = none
  member : ¬ ['$', '.'] <+: rule
  element : ¬ ['$', '['] <+: rule

theorem isDirect_iff {rule : Text} : isDirect rule = true ↔ Direct rule := by
  have hrest : Text.includesIgnoreCase rule scriptRest = true ↔
      scriptRest <:+: lowerAscii rule := by
    rw [Text.includesIgnoreCase_iff, lowerAscii_scriptRest]
  rw [isDirect, Bool.not_eq_true', ← Bool.not_eq_true]
  simp only [Bool.or_eq_true, Text.includes_iff, hrest, List.isPrefixOf_iff_prefix, not_or,
    Option.not_isSome_iff_eq_none]
  constructor
  · rintro ⟨⟨⟨⟨⟨⟨⟨harrow, hfence⟩, hplaceholder⟩, hopen⟩, hrest⟩, hhint⟩, hmember⟩, helement⟩
    exact ⟨⟨harrow, hfence, hopen, hrest⟩, hplaceholder, hhint, hmember, helement⟩
  · rintro ⟨⟨harrow, hfence, hopen, hrest⟩, hplaceholder, hhint, hmember, helement⟩
    exact ⟨⟨⟨⟨⟨⟨⟨harrow, hfence⟩, hplaceholder⟩, hopen⟩, hrest⟩, hhint⟩, hmember⟩, helement⟩

theorem Markless.of_suffix {t u : Text} (h : Markless t) (hu : u <:+ t) : Markless u where
  arrow := fun hin => h.arrow (hin.trans hu.isInfix)
  fence := fun hin => h.fence (hin.trans hu.isInfix)
  scriptOpen := fun hin => h.scriptOpen (hin.trans hu.isInfix)
  scriptRest := fun hin => h.scriptRest (hin.trans (hu.isInfix.map _))

/-! ### Compiling -/

/-- The step without scripts and replacement. -/
def plainStep (selector : Text) (mode : Mode) : Step :=
  { selector, mode, scripts := [], replace := none }

namespace Scan

section Markless

variable {s s' : Scan} {c : Char} {cs text : Text} {extra : Nat}

/-- Where there are no marks, a step adds what it reads to the body under way. -/
theorem step_of_markless (hregex : s.current.regex = none) (ht : Markless (c :: cs))
    (h : s.step c cs = .ok (s', extra)) :
    s'.segments = s.segments ∧
      s'.current = { s.current with body := s.current.body ++ c :: cs.take extra } := by
  have hescape (hr : s.escapeStep cs = (s', extra)) (hc : c = '\\') : s'.segments = s.segments ∧
      s'.current = { s.current with body := s.current.body ++ c :: cs.take extra } := by
    subst hc
    cases cs <;> (cases hr; exact ⟨rfl, rfl⟩)
  rcases step_cases h with ⟨q, -, hr⟩ | ⟨-, rest, script, after, htext, -, -⟩ |
    ⟨-, -, -, script, hscript, -⟩ | ⟨-, -, hzone⟩
  · unfold quotedStep at hr
    split at hr
    · next hc => exact hescape hr hc
    · cases hr
      exact ⟨rfl, rfl⟩
  · exact (ht.scriptOpen ⟨[], rest, htext.symm⟩).elim
  · refine (ht.scriptRest (List.IsPrefix.isInfix ?_)).elim
    rw [← lowerAscii_scriptRest, ← Text.dropPrefixIgnoreCase?_isSome_iff, hscript]
    rfl
  · unfold zoneStep at hzone
    rw [hregex] at hzone
    rcases bodyStep_cases hzone with ⟨hc, hr⟩ | ⟨brackets, hr⟩ | ⟨harrow, -⟩ | ⟨hfence, -⟩
    · exact hescape hr hc
    · cases hr
      exact ⟨rfl, rfl⟩
    · exact (ht.arrow harrow.isInfix).elim
    · exact (ht.fence hfence.isInfix).elim

/-- A text without marks is read into the body under way. -/
theorem run_of_markless (hregex : s.current.regex = none) (ht : Markless text)
    (h : run s text = .ok s') :
    s'.segments = s.segments ∧
      s'.current = { s.current with body := s.current.body ++ text } := by
  fun_induction run s text with
  | case1 s =>
    cases h
    rw [List.append_nil]
    exact ⟨rfl, rfl⟩
  | case2 s c cs fault hstep => cases h
  | case3 s c cs s₁ extra hstep ih =>
    obtain ⟨hsegments, hcurrent⟩ := step_of_markless hregex ht hstep
    have hsuffix : cs.drop extra <:+ c :: cs :=
      (List.drop_suffix extra cs).trans (List.suffix_cons c cs)
    obtain ⟨hsegments', hcurrent'⟩ := ih (by rw [hcurrent]; exact hregex)
      (ht.of_suffix hsuffix) h
    refine ⟨hsegments'.trans hsegments, hcurrent'.trans ?_⟩
    rw [hcurrent, List.append_assoc, List.cons_append, List.take_append_drop]

end Markless

end Scan

theorem resolveMode_of_direct {rule : Text} (h : Direct rule) (mode : Mode) :
    resolveMode mode rule = (if ['/', '/'] <+: rule then .xpath else mode, rule) := by
  have hjson : (['$', '.'].isPrefixOf rule || ['$', '['].isPrefixOf rule) = false := by
    rw [← Bool.not_eq_true, Bool.or_eq_true, List.isPrefixOf_iff_prefix, List.isPrefixOf_iff_prefix]
    exact not_or.2 ⟨h.member, h.element⟩
  rw [resolveMode, h.hint, hjson]
  simp only [List.isPrefixOf_iff_prefix, Bool.false_eq_true, if_false]
  split <;> rfl

/-- A segment that is a body alone writes a plain step. -/
theorem compileSegment_body (mode : Mode) (body : Text) :
    compileSegment mode { body } = .ok (plainStep (Text.trim (resolveMode mode (Text.trim body)).2)
      (resolveMode mode (Text.trim body)).1) := rfl

/-- A rule without marks that compiles has one step, without scripts and replacement. -/
theorem steps_of_markless {raw : Text} {mode : Mode} {r : Rule} (h : Markless (Text.trim raw))
    (hraw : Text.trim raw ≠ []) (hr : compile raw mode = .ok r) :
    r.steps = [plainStep (Text.trim (resolveMode mode (Text.trim raw)).2)
      (resolveMode mode (Text.trim raw)).1] := by
  obtain ⟨segments, hsegments, hsteps⟩ := (compile_eq_ok_iff hraw).1 hr
  obtain ⟨s, hrun, -, -, -, rfl⟩ := splitSteps_eq_ok_iff.1 hsegments
  obtain ⟨hdone, hcurrent⟩ := Scan.run_of_markless rfl h hrun
  rw [hdone, hcurrent, List.nil_append, List.nil_append, List.mapM_cons, compileSegment_body,
    Text.trim_trim] at hsteps
  exact (Except.ok.inj hsteps).symm

/-- A direct rule that compiles has one step, whose selector is the rule, without scripts and
replacement: a location path if it begins with two slashes, else in the default dialect. -/
theorem steps_of_direct {raw : Text} {mode : Mode} {r : Rule} (h : Direct (Text.trim raw))
    (hr : compile raw mode = .ok r) :
    r.steps =
      [plainStep (Text.trim raw) (if ['/', '/'] <+: Text.trim raw then .xpath else mode)] := by
  by_cases hraw : Text.trim raw = []
  · rw [compile, hraw] at hr
    cases hr
    rw [hraw]
    rfl
  · rw [steps_of_markless h.toMarkless hraw hr, resolveMode_of_direct h mode, Text.trim_trim]

/-- The dialect that a text without a hint and without the look of a path into JSON shows. -/
def shownMode (mode : Mode) (text : Text) : Mode := if ['/', '/'] <+: text then .xpath else mode

/-- What is compiled from a text says more than that values are selected by the text: there are more
steps than one, or a step has a script, a replacement, or not the selector and the dialect that the
text shows. -/
def SaysMore (raw : Text) (mode : Mode) (r : Rule) : Prop :=
  r.length ≠ 1 ∨ ∃ step ∈ r.steps, step.hasScripts = true ∨ step.replace.isSome = true ∨
    step.selector ≠ Text.trim raw ∨ step.mode ≠ shownMode mode (Text.trim raw)

/-- A direct rule is compiled to one step that selects by the rule itself. So what says more is not
direct, and nothing is read by it directly, whatever the value at hand. -/
theorem compile_of_isDirect {raw : Text} {mode : Mode} {r : Rule} (hr : compile raw mode = .ok r) :
    (isDirect (Text.trim raw) = true →
      r.steps = [plainStep (Text.trim raw) (shownMode mode (Text.trim raw))]) ∧
    (SaysMore raw mode r → isDirect (Text.trim raw) = false ∧
      ∀ (p : Primitive) (target : Target), p.readDirect? raw target = .ok none) := by
  have hsteps (hdirect : isDirect (Text.trim raw) = true) :
      r.steps = [plainStep (Text.trim raw) (shownMode mode (Text.trim raw))] :=
    steps_of_direct (isDirect_iff.1 hdirect) hr
  refine ⟨hsteps, fun hmore => ?_⟩
  have hnot : isDirect (Text.trim raw) = false := by
    rw [← Bool.not_eq_true]
    intro hdirect
    rcases hmore with hlength | ⟨step, hstep, hmore⟩
    · exact hlength (by rw [Rule.length, hsteps hdirect, List.length_singleton])
    · rw [hsteps hdirect, List.mem_singleton] at hstep
      subst hstep
      simp [plainStep, Step.hasScripts] at hmore
  refine ⟨hnot, fun p target => ?_⟩
  simp [Primitive.readDirect?, hnot]

/-- A direct rule with an apostrophe, which is a location path, and a rule that shows its dialect by
a hint in capitals. -/
theorem compile_of_isDirect_hint :
    let path := " //p[contains(., it's)] ".toList
    let hinted := "@CSS:p".toList
    (∃ r, compile path .css = .ok r ∧ isDirect (Text.trim path) = true ∧
      r.steps = [plainStep (Text.trim path) .xpath]) ∧
    ∃ r, compile hinted .css = .ok r ∧ SaysMore hinted .css r ∧
      ∀ (p : Primitive) (target : Target), p.readDirect? hinted target = .ok none := by
  intro path hinted
  constructor
  · obtain ⟨r, hr⟩ := Option.isSome_iff_exists.1
      (show (compile path .css).toOption.isSome = true by decide +kernel)
    have hok : compile path .css = .ok r := eq_ok_of_toOption hr
    have hdirect : isDirect (Text.trim path) = true := by decide +kernel
    exact ⟨r, hok, hdirect, (compile_of_isDirect hok).1 hdirect⟩
  · obtain ⟨r, hr, hselectors⟩ := exists_of_map_toOption
      (show (compile hinted .css).toOption.map (·.steps.map Step.selector) = some [['p']] by
        decide +kernel)
    obtain ⟨step, hsteps, hselector⟩ := List.map_eq_singleton_iff.1 hselectors
    have hmore : SaysMore hinted .css r := by
      refine .inr ⟨step, by simp [hsteps], .inr (.inr (.inl ?_))⟩
      rw [hselector]
      decide +kernel
    exact ⟨r, hr, hmore, ((compile_of_isDirect hr).2 hmore).2⟩

end Rule

/-! ### Filling -/

theorem Placeholder.at?_eq_none {t : Text} (h : ¬ opening <+: t) : at? t = none := by
  rw [at?, Text.isPrefixOf?_eq_none_iff.2 h]

/-- A text in which no placeholder opens is filled as it is. -/
theorem Variables.fill_of_not_infix (vs : Variables) {t : Text} (h : ¬ Placeholder.opening <:+: t) :
    vs.fill t = t := by
  induction t with
  | nil => rw [fill]
  | cons c t ih =>
    rw [fill]
    split
    · next hat =>
      rw [Placeholder.at?_eq_none fun hp => h hp.isInfix] at hat
      cases hat
    · rw [ih fun hin => h (hin.trans (List.suffix_cons c t).isInfix)]

/-! ### Selectors of elements -/

namespace Css

section Slashes

variable (t : Text)

theorem atToken_slashes : atToken ('/' :: '/' :: t) = '/' :: '/' :: t := rfl

theorem dropGaps_slashes : dropGaps ('/' :: '/' :: t) = '/' :: '/' :: t := rfl

theorem labelTest_slashes : labelTest ('/' :: '/' :: t) = some (none, '/' :: '/' :: t) := rfl

/-- No compound begins with a slash that begins no comment. -/
theorem compound_slashes (fuel : Nat) (allowsHas : Bool) :
    compound fuel allowsHas ('/' :: '/' :: t) = none := by
  cases fuel with
  | zero => rfl
  | succ fuel =>
    have htests : tests fuel allowsHas ('/' :: '/' :: t) = none ∨
        tests fuel allowsHas ('/' :: '/' :: t) = some ([], '/' :: '/' :: t) := by
      cases fuel with
      | zero => exact .inl rfl
      | succ fuel => exact .inr (by rw [tests, atToken_slashes]; rfl)
    rw [compound, labelTest_slashes]
    rcases htests with h | h <;> simp [h]

/-- A text that begins with two slashes is no selector of elements. -/
theorem parse?_slashes : parse? ('/' :: '/' :: t) = none := by
  have hcomplex (fuel : Nat) (form : ListForm) (hform : form.relative = false) :
      complex fuel form ('/' :: '/' :: t) = none := by
    cases fuel with
    | zero => rfl
    | succ fuel =>
      rw [complex, hform, dropGaps_slashes]
      simp [compound_slashes]
  rw [parse?, list, hcomplex _ _ rfl]
  rfl

theorem select_slashes (p : Markup.Place) :
    select p ('/' :: '/' :: t) = .error (.malformed ('/' :: '/' :: t) .selectorRejected) := by
  rw [select, parse?_slashes]

end Slashes

end Css

/-! ### Reading -/

theorem Step.selectAll_singleton (s : Step) (p : Primitive) : s.selectAll [p] = s.select p := by
  unfold selectAll
  rw [List.mapM_cons, List.mapM_nil]
  cases s.select p with
  | error e => rfl
  | ok ps => exact congrArg Except.ok (List.append_nil ps)

/-- A rule of one plain step yields the texts of what the step selects. -/
theorem Rule.applyList_of_plain {selector : Text} {mode : Mode} {r : Rule}
    (h : r.steps = [Rule.plainStep selector mode]) (engine : Engine) (p : Primitive) :
    r.applyList engine p =
      liftM (((Rule.plainStep selector mode).select p).map (·.map Primitive.asText)) := by
  obtain ⟨steps⟩ := r
  cases h
  change (Rule.selectThrough engine [Rule.plainStep selector mode] [p] >>= fun ps =>
    pure (ps.map Primitive.asText)) = _
  rw [selectThrough, Step.selectAll_singleton]
  cases (Rule.plainStep selector mode).select p <;> rfl

/-- The texts that a session finds by a rule without placeholders are those that the compiled rule
yields. -/
theorem Extractor.applyList_of_texts (x : Extractor) {s : Session} (hs : s.cache.Sound)
    {rule : Text} (hrule : ¬ Placeholder.opening <:+: rule) {doc : Document} {list : List Text}
    (h : ((x.texts doc rule).run s).1 = .ok list) :
    ∃ r, Rule.compile rule doc.primitive.mode = .ok r ∧
      ((r.applyList x.engine doc.primitive).run s.vars).1 = .ok list := by
  have hvalue := Session.map_value_rule hs rule doc.primitive.mode true
  rw [Session.source, if_pos rfl, Variables.fill_of_not_infix s.vars hrule] at hvalue
  have hvars := Session.vars_rule rule doc.primitive.mode true s
  unfold texts at h
  rw [run_bind] at h
  generalize (Session.rule rule doc.primitive.mode true).run s = outcome at h hvalue hvars
  obtain ⟨e | compiled, t⟩ := outcome
  · cases h
  · refine ⟨compiled.value, hvalue.symm, ?_⟩
    rw [← hvars]
    exact h

namespace Primitive

section Direct

variable {place : Markup.Place} {rule : Text} (hdirect : Rule.isDirect (Text.trim rule) = true)

include hdirect

theorem readDirect?_element (hat : '@' ∉ Text.trim rule) :
    (element place).readDirect? rule .text =
      if (Text.trim rule).isEmpty then .ok (some place.text)
      else (Css.select place (Text.trim rule)).map fun found => some (found.headD place).text := by
  simp [readDirect?, hdirect, hat]

theorem readDirect?_node (target : Target) :
    (node place).readDirect? rule target =
      if (Text.trim rule).isEmpty then .ok (some place.text)
      else (XPath.select place (Text.trim rule)).map fun items =>
        some ((items.head?.map XPath.Item.asText).getD []) := by
  simp [readDirect?, hdirect]

end Direct

/-- What an element yields for a selector without an accessor is what is read from it directly. -/
theorem readDirect?_of_select_element {place : Markup.Place} {rule : Text}
    (hdirect : Rule.isDirect (Text.trim rule) = true) (hat : '@' ∉ Text.trim rule)
    {ps : List Primitive} {t : Text} {ts : List Text}
    (hselect : (Rule.plainStep (Text.trim rule) .css).select (.element place) = .ok ps)
    (hps : ps.map asText = t :: ts) :
    (element place).readDirect? rule .text = .ok (some t) := by
  rw [readDirect?_element hdirect hat]
  unfold Step.select Rule.plainStep select selectCss splitAccessor at hselect
  simp only [place?, Text.cutLastOutside?_of_notMem hat, Text.trim_trim] at hselect
  by_cases hempty : (Text.trim rule).isEmpty = true
  · rw [if_pos hempty] at hselect ⊢
    cases hselect
    cases hps
    rfl
  · rw [if_neg hempty] at hselect ⊢
    cases hfound : Css.select place (Text.trim rule) with
    | error e =>
      rw [hfound] at hselect
      cases e <;> cases hselect
      cases hps
    | ok found =>
      rw [hfound] at hselect
      cases hselect
      cases found with
      | nil => cases hps
      | cons q found =>
        cases hps
        rfl

/-- What a node yields for a location path is what is read from it directly. -/
theorem readDirect?_of_select_node {place : Markup.Place} {rule : Text}
    (hdirect : Rule.isDirect (Text.trim rule) = true) {ps : List Primitive} {t : Text}
    {ts : List Text}
    (hselect : (Rule.plainStep (Text.trim rule) .xpath).select (.node place) = .ok ps)
    (hps : ps.map asText = t :: ts) :
    (node place).readDirect? rule .text = .ok (some t) := by
  rw [readDirect?_node hdirect]
  unfold Step.select Rule.plainStep select selectXPath at hselect
  simp only [place?, Text.isBlankText_trim] at hselect
  by_cases hempty : (Text.trim rule).isEmpty = true
  · rw [if_pos hempty] at hselect ⊢
    cases hselect
    cases hps
    rfl
  · rw [if_neg hempty] at hselect ⊢
    cases hfound : XPath.select place (Text.trim rule) with
    | error e =>
      rw [hfound] at hselect
      cases e <;> cases hselect
      cases hps
    | ok found =>
      rw [hfound] at hselect
      cases hselect
      cases found with
      | nil => cases hps
      | cons item found =>
        cases item <;> (cases hps; rfl)

/-- What begins with two slashes cannot be read directly from an element. -/
theorem readDirect?_slashes {place : Markup.Place} {rule : Text}
    (hdirect : Rule.isDirect (Text.trim rule) = true) (hat : '@' ∉ Text.trim rule)
    (hslashes : ['/', '/'] <+: Text.trim rule) :
    (element place).readDirect? rule .text =
      .error (.malformed (Text.trim rule) .selectorRejected) := by
  obtain ⟨t, ht⟩ := hslashes
  rw [readDirect?_element hdirect hat, ← ht,
    show ['/', '/'] ++ t = '/' :: '/' :: t from rfl, Css.select_slashes]
  rfl

end Primitive

namespace Extractor

variable (x : Extractor)

/-- Of a rule that is direct, the one text that is found is the first of the texts that are found,
if there are any; except that from an element nothing can be read by a rule that begins with two
slashes, though as a location path it finds texts. -/
theorem text_of_direct_texts (history : List Request) {doc : Document} {rule : Text}
    (hdirect : Rule.isDirect (Text.trim rule) = true)
    (hplace : (∃ place, doc.primitive = .element place ∧ '@' ∉ rule) ∨
      ∃ place, doc.primitive = .node place)
    {t : Text} {ts : List Text}
    (htexts : ((x.texts doc rule).run (x.after history)).1 = .ok (t :: ts)) :
    ((x.text doc rule).run (x.after history)).1 =
      if doc.primitive.backend = .element ∧ ['/', '/'] <+: Text.trim rule
      then .error (.malformed (Text.trim rule) .selectorRejected) else .ok t := by
  have hconditions := Rule.isDirect_iff.1 hdirect
  have hplaceholder : ¬ Placeholder.opening <:+: rule := fun hin =>
    hconditions.placeholder ((Text.infix_trim_iff (by decide) (by decide) rule).2 hin)
  obtain ⟨r, hr, hlist⟩ := x.applyList_of_texts (x.sound_after history) hplaceholder htexts
  rw [Rule.applyList_of_plain (Rule.steps_of_direct hconditions hr)] at hlist
  obtain ⟨ps, hselect, hps⟩ : ∃ ps, (Rule.plainStep (Text.trim rule)
      (if ['/', '/'] <+: Text.trim rule then .xpath else doc.primitive.mode)).select
        doc.primitive = .ok ps ∧ ps.map Primitive.asText = t :: ts := by
    generalize Step.select _ doc.primitive = found at hlist ⊢
    cases found with
    | error e => cases hlist
    | ok ps => exact ⟨ps, rfl, Except.ok.inj hlist⟩
  unfold text
  rw [run_read]
  rcases hplace with ⟨place, hp, hat⟩ | ⟨place, hp⟩
  · rw [hp] at hselect ⊢
    have hat' : '@' ∉ Text.trim rule := fun hmem => hat ((Text.trim_infix rule).subset hmem)
    by_cases hslashes : ['/', '/'] <+: Text.trim rule
    · rw [Primitive.readDirect?_slashes hdirect hat' hslashes, if_pos ⟨rfl, hslashes⟩]
    · rw [if_neg hslashes] at hselect
      rw [Primitive.readDirect?_of_select_element hdirect hat' hselect hps,
        if_neg fun h => hslashes h.2]
  · rw [hp] at hselect ⊢
    change (Rule.plainStep _ (if _ then Mode.xpath else Mode.xpath)).select _ = _ at hselect
    rw [ite_self] at hselect
    rw [Primitive.readDirect?_of_select_node hdirect hselect hps, if_neg fun h => nomatch h.1]

/-- The outer element of the page `<div><a b="1">x</a><a b="2">y</a></div>`. -/
def twoLinks : Markup.Place :=
  ⟨⟨.document [.element ⟨.html, "div".toList⟩ [] [
    .element ⟨.html, ['a']⟩ [⟨[], ['b'], ['1']⟩] [.text ['x']],
    .element ⟨.html, ['a']⟩ [⟨[], ['b'], ['2']⟩] [.text ['y']]]], false⟩, [0]⟩

/-- A location path finds two attributes. -/
theorem text_of_direct_texts_attribute :
    let x : Extractor := ⟨Config.usual, fun _ v => return v⟩
    let doc := Document.ofPrimitive (.node twoLinks)
    let rule := "//a/@b".toList
    Rule.isDirect (Text.trim rule) = true ∧ (∃ place, doc.primitive = .node place) ∧
      ((x.texts doc rule).run (x.after [])).1 = .ok [['1'], ['2']] ∧
      ((x.text doc rule).run (x.after [])).1 = .ok ['1'] := by
  intro x doc rule
  have hdirect : Rule.isDirect (Text.trim rule) = true := by decide +kernel
  have hplace : ∃ place, doc.primitive = .node place := ⟨twoLinks, rfl⟩
  have htexts : ((x.texts doc rule).run (x.after [])).1 = .ok [['1'], ['2']] :=
    eq_ok_of_toOption (by decide +kernel)
  refine ⟨hdirect, hplace, htexts, ?_⟩
  rw [text_of_direct_texts x [] hdirect (.inr hplace) htexts, if_neg fun h => nomatch h.1]

/-- From an element nothing is read by a rule that begins with two slashes, though the list of texts
that it finds there is not empty. -/
theorem not_text_of_direct_texts :
    ¬ ∀ (x : Extractor) (history : List Request) (doc : Document) (rule t : Text) (ts : List Text),
      Rule.isDirect (Text.trim rule) = true →
      ((∃ place, doc.primitive = .element place ∧ '@' ∉ rule) ∨
        ∃ place, doc.primitive = .node place) →
      ((x.texts doc rule).run (x.after history)).1 = .ok (t :: ts) →
      ((x.text doc rule).run (x.after history)).1 = .ok t := by
  intro hall
  let x : Extractor := ⟨Config.usual, fun _ v => return v⟩
  let doc := Document.ofPrimitive (.element twoLinks)
  let rule := "//text()".toList
  have hdirect : Rule.isDirect (Text.trim rule) = true := by decide +kernel
  have hplace : ∃ place, doc.primitive = .element place ∧ '@' ∉ rule :=
    ⟨twoLinks, rfl, by decide⟩
  have htexts : ((x.texts doc rule).run (x.after [])).1 = .ok [['x'], ['y']] :=
    eq_ok_of_toOption (by decide +kernel)
  have hfirst := hall x [] doc rule ['x'] [['y']] hdirect (.inl hplace) htexts
  have hfails : ((x.text doc rule).run (x.after [])).1.toOption = none := by decide +kernel
  rw [hfirst] at hfails
  cases hfails

end Extractor

end Extraction
