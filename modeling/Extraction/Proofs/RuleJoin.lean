import Extraction.Proofs.ScanFollows

/-!
# Rules joined by an arrow

Two rules joined by an arrow between blanks are read as the one and then the other, but for one
thing: blanks that stand before a script at the end of the text after a fence belong to that text at
the end of a rule, and are cut off before an arrow.

## Main definitions

* `lastFence?`: the text after the fence in the last segment of a rule
* `Scan.Tight`: scans in which what was read after a fence ends in the character read last
-/

namespace Extraction.Rule

open Text

/-- The text after the fence in the last segment of a rule. -/
def lastFence? (raw : Text) : Option Text :=
  match splitSteps (trim raw) with
  | .ok segments => segments.getLast?.bind (·.regex)
  | .error _ => none

/-! ### Blanks at the end of the text after a fence -/

namespace Scan

/-- What was read after a fence ends in the character read last, unless the segment has taken a
script; and no quoted run is open after a fence. -/
structure Tight (s : Scan) : Prop where
  quote : s.current.regex ≠ none → s.quote = none
  last : s.current.scripts = [] →
    ∀ regex ∈ s.current.regex, ∀ c ∈ regex.getLast?, s.previous = some c

namespace Tight

variable {s s' : Scan} {c : Char} {cs : Text} {extra : Nat}

theorem of_body (h : s.current.regex = none) : s.Tight where
  quote hne := (hne h).elim
  last _ regex hregex := by
    rw [h] at hregex
    cases hregex

theorem of_scripts (hquote : s.quote = none) (hscripts : s.current.scripts ≠ []) : s.Tight :=
  ⟨fun _ => hquote, fun hnil => (hscripts hnil).elim⟩

theorem regex_quotedStep (q : Char) :
    (s.quotedStep q c cs).1.current.regex = s.current.regex := by
  unfold quotedStep
  split
  · cases cs <;> rfl
  · rfl

theorem of_regexStep {regex : Text} (hquote : s.quote = none)
    (hstep : s.regexStep regex c cs = .ok (s', extra)) :
    Tight { s' with previous := (c :: cs)[extra]? } := by
  rcases regexStep_cases hstep with ⟨-, -, s₁, hclose, hr⟩ | ⟨-, hr⟩
  · cases hr
    obtain ⟨-, rfl⟩ := close_eq_ok_iff.1 hclose
    exact of_body rfl
  · cases hr
    refine ⟨fun _ => hquote, fun _ t ht d hd => ?_⟩
    obtain rfl : regex ++ [c] = t := Option.some.inj ht
    rw [List.getLast?_concat] at hd
    exact hd

theorem of_bodyStep (hquote : s.quote = none) (hregex : s.current.regex = none)
    (hstep : s.bodyStep c cs = .ok (s', extra)) :
    Tight { s' with previous := (c :: cs)[extra]? } := by
  rcases bodyStep_cases hstep with ⟨-, hr⟩ | ⟨brackets, hr⟩ | ⟨-, s₁, hclose, hr⟩ | ⟨-, hr⟩
  · refine of_body (s := { s' with previous := _ }) ?_
    have hstate := congrArg Prod.fst hr
    rw [← show _ = s' from hstate]
    cases cs <;> exact hregex
  · cases hr
    exact of_body hregex
  · cases hr
    obtain ⟨-, rfl⟩ := close_eq_ok_iff.1 hclose
    exact of_body rfl
  · cases hr
    refine ⟨fun _ => hquote, fun _ t ht d hd => ?_⟩
    obtain rfl : [] = t := Option.some.inj ht
    cases hd

/-- One step keeps a scan tight. -/
theorem step (h : s.Tight) (hstep : s.step c cs = .ok (s', extra)) :
    Tight { s' with previous := (c :: cs)[extra]? } := by
  rcases step_cases hstep with ⟨q, hq, hr⟩ | ⟨hq, rest, script, after, -, -, hr⟩ |
    ⟨hq, -, -, script, -, hr⟩ | ⟨hq, -, hr⟩
  · have hregex : s.current.regex = none := by
      by_contra hne
      rw [h.quote hne] at hq
      cases hq
    refine of_body (s := { s' with previous := _ }) ?_
    rw [← show _ = s' from congrArg Prod.fst hr]
    exact (regex_quotedStep q).trans hregex
  · cases hr
    exact of_scripts hq (List.append_ne_nil_of_right_ne_nil _ (List.cons_ne_nil _ _))
  · cases hr
    exact of_scripts hq (List.append_ne_nil_of_right_ne_nil _ (List.cons_ne_nil _ _))
  · unfold zoneStep at hr
    split at hr
    · exact of_regexStep hq hr
    · next hregex => exact of_bodyStep hq hregex hr

/-- A run keeps a scan tight. -/
theorem run {text : Text} (h : s.Tight) (hrun : Scan.run s text = .ok s') : s'.Tight := by
  fun_induction Scan.run s text with
  | case1 s =>
    cases hrun
    exact h
  | case2 s c cs fault hstep => cases hrun
  | case3 s c cs s₁ extra hstep ih => exact ih (h.step hstep) hrun

end Tight

/-- The character read last in a run. -/
theorem previous_of_run {s s' : Scan} {text : Text} (hrun : run s text = .ok s') :
    s'.previous = text.getLast?.or s.previous := by
  fun_induction run s text with
  | case1 s =>
    cases hrun
    rfl
  | case2 s c cs fault hstep => cases hrun
  | case3 s c cs s₁ extra hstep ih =>
    have hextra := step_extra hstep
    rw [ih hrun]
    cases hdrop : (cs.drop extra).getLast? with
    | none =>
      rw [List.getLast?_eq_none_iff, List.drop_eq_nil_iff] at hdrop
      obtain rfl : extra = cs.length := Nat.le_antisymm hextra hdrop
      rw [List.getLast?_eq_getElem?, List.length_cons, Nat.add_sub_cancel]
      cases hlast : (c :: cs)[cs.length]? with
      | none =>
        rw [List.getElem?_eq_none_iff, List.length_cons] at hlast
        omega
      | some d => rfl
    | some d =>
      have hcut : c :: cs = c :: cs.take extra ++ cs.drop extra := by
        rw [List.cons_append, List.take_append_drop]
      rw [hcut, List.getLast?_append, hdrop]
      rfl

end Scan

/-- Without a script, the text after the fence in the last segment of a rule ends in no blank. -/
theorem trimEnd_of_scripts_eq_nil {text : Text} {s : Scan}
    (hlast : ∀ c ∈ text.getLast?, isBlank c = false) (hrun : Scan.run {} text = .ok s)
    (hscripts : s.current.scripts = []) : ∀ regex ∈ s.current.regex, trimEnd regex = regex := by
  intro regex hregex
  have htight : s.Tight := (Scan.Tight.of_body (s := {}) rfl).run hrun
  refine trimEnd_eq_self fun c hc => hlast c ?_
  have hprevious := htight.last hscripts regex hregex c hc
  rw [Scan.previous_of_run hrun] at hprevious
  exact Option.or_none.symm.trans hprevious

/-! ### The rule -/

/-- The step of a segment is the step of what an arrow leaves of it exactly if the blanks at the end
of the text after the fence do not matter. -/
theorem compileSegment_cut_iff {x : Segment} {mode : Mode} {step : Step}
    (h : compileSegment mode x = .ok step) :
    compileSegment mode x.cut = .ok step ↔
      ∀ regex ∈ x.regex, readReplacement (trimEnd regex) = readReplacement regex := by
  obtain ⟨body, regex, scripts⟩ := x
  cases regex with
  | none => exact ⟨fun _ regex hregex => (by cases hregex), fun _ => h⟩
  | some regex =>
    have hmem : (∀ r ∈ some regex, readReplacement (trimEnd r) = readReplacement r) ↔
        readReplacement (trimEnd regex) = readReplacement regex :=
      ⟨fun hall => hall regex rfl, fun heq r hr => Option.some.inj hr ▸ heq⟩
    rw [hmem]
    unfold compileSegment at h ⊢
    cases hread : readReplacement regex with
    | error fault =>
      simp only [hread] at h
      cases h
    | ok replace =>
      simp only [hread] at h
      cases h
      cases hcut : readReplacement (trimEnd regex) with
      | error fault => simp [Segment.cut, hcut, bind, Except.bind]
      | ok replace' =>
        simp [Segment.cut, hcut, bind, Except.bind, pure, Except.pure]

theorem trim_join {a b : Text} (ha : trim a ≠ []) (hb : trim b ≠ []) :
    ∃ before after, AllBlank before ∧ before ≠ [] ∧ AllBlank after ∧
      trim (a ++ joint ++ b) = trim a ++ (before ++ '-' :: '>' :: (after ++ trim b)) := by
  obtain ⟨a₁, a₂, ha₁, ha₂, haeq⟩ := exists_blanks_around a
  obtain ⟨b₁, b₂, hb₁, hb₂, hbeq⟩ := exists_blanks_around b
  refine ⟨a₂ ++ [' '], ' ' :: b₁, allBlank_append.2 ⟨ha₂, allBlank_space⟩,
    List.append_ne_nil_of_right_ne_nil _ (List.cons_ne_nil _ _),
    allBlank_append.2 ⟨allBlank_space, hb₁⟩, ?_⟩
  have hsplit : a ++ joint ++ b =
      a₁ ++ (trim a ++ (a₂ ++ [' '] ++ '-' :: '>' :: (' ' :: b₁ ++ trim b)) ++ b₂) := by
    conv_lhs => rw [haeq, hbeq]
    simp [joint]
  rw [hsplit, trim_allBlank_append ha₁, trim_append_of_allBlank hb₂]
  refine trim_eq_self (fun c hc => ?_) fun c hc => ?_
  · rw [List.head?_append_of_ne_nil _ ha] at hc
    exact isBlank_head_trim a c hc
  · have hassoc : trim a ++ (a₂ ++ [' '] ++ '-' :: '>' :: (' ' :: b₁ ++ trim b)) =
        (trim a ++ (a₂ ++ [' '] ++ '-' :: '>' :: ' ' :: b₁)) ++ trim b := by simp
    rw [hassoc, List.getLast?_append_of_ne_nil _ hb] at hc
    exact isBlank_getLast_trim b c hc

/-- The segments of two rules joined by an arrow: those of the first rule, the last of them cut, and
then those of the second one but for blanks. -/
theorem splitSteps_join {a b : Text} (ha : trim a ≠ []) (hb : trim b ≠ [])
    (hrest : includesIgnoreCase a scriptRest = false) {xs ys : List Segment} {y : Segment}
    (hsa : splitSteps (trim a) = .ok (xs ++ [y])) (hsb : splitSteps (trim b) = .ok ys) :
    ∃ x later, splitSteps (trim (a ++ joint ++ b)) = .ok (xs ++ [x] ++ later) ∧
      List.Forall₂ Segment.Like ys later ∧
      ∀ mode, compileSegment mode x = compileSegment mode y.cut := by
  obtain ⟨sa, hruna, hq, hbrackets, hblank, hsega⟩ := splitSteps_eq_ok_iff.1 hsa
  obtain ⟨rfl, hlast⟩ := List.append_inj' hsega rfl
  obtain rfl : sa.current = y := (List.cons.inj hlast).1
  have hrest' : ¬ scriptRest <:+: lowerAscii (trim a) := fun hin => by
    obtain ⟨a₁, a₂, -, -, haeq⟩ := exists_blanks_around a
    have hina : scriptRest <:+: lowerAscii a := by
      rw [haeq, lowerAscii, List.map_append, List.map_append]
      exact hin.trans ((List.prefix_append _ _).isInfix.trans (List.suffix_append _ _).isInfix)
    rw [← Bool.not_eq_true, includesIgnoreCase_iff, lowerAscii_scriptRest] at hrest
    exact hrest hina
  obtain ⟨before, after, hbefore, hne, hafter, htrim⟩ := trim_join ha hb
  rw [htrim]
  refine splitSteps_of_run hq hbrackets hblank hbefore hne hafter hsb ?_
  obtain ⟨d, blanks, rfl⟩ := List.exists_cons_of_ne_nil hne
  exact Scan.run_append_blank hruna hq (hbefore d List.mem_cons_self) hrest' _

theorem trim_ne_nil {t : Text} (ht : isBlankText t = false) : trim t ≠ [] := fun h => by
  rw [isBlankText_iff.2 (trim_eq_nil_iff.1 h)] at ht
  cases ht

/-- What two rules joined by an arrow compile to depends on the last segment of the first one
alone. -/
theorem exists_compile_join_iff_cut {a b : Text} {mode : Mode} {ra rb : Rule} (ha : trim a ≠ [])
    (hb : trim b ≠ []) (hrest : includesIgnoreCase a scriptRest = false)
    (hca : compile a mode = .ok ra) (hcb : compile b mode = .ok rb) :
    ∃ xs y us step, splitSteps (trim a) = .ok (xs ++ [y]) ∧ ra.steps = us ++ [step] ∧
      compileSegment mode y = .ok step ∧
      (compile (a ++ joint ++ b) mode = .ok ⟨ra.steps ++ rb.steps⟩ ↔
        compileSegment mode y.cut = .ok step) := by
  obtain ⟨segments, hsa, hma⟩ := (compile_eq_ok_iff ha).1 hca
  obtain ⟨ys, hsb, hmb⟩ := (compile_eq_ok_iff hb).1 hcb
  obtain ⟨sa, -, -, -, -, rfl⟩ := splitSteps_eq_ok_iff.1 hsa
  obtain ⟨x, later, hsplit, hlike, hx⟩ := splitSteps_join ha hb hrest hsa hsb
  obtain ⟨us, step, hus, hstep, hra⟩ := exists_of_mapM_append_singleton hma
  have hjoin : trim (a ++ joint ++ b) ≠ [] := by
    obtain ⟨before, after, -, -, -, heq⟩ := trim_join ha hb
    rw [heq]
    exact List.append_ne_nil_of_left_ne_nil ha _
  have hsteps : (sa.segments ++ [x] ++ later).mapM (compileSegment mode) =
      .ok (ra.steps ++ rb.steps) ↔ compileSegment mode x = .ok step := by
    rw [hra]
    exact mapM_append_cons_eq_ok_iff hus ((mapM_compileSegment_congr hlike mode).symm.trans hmb)
  refine ⟨sa.segments, sa.current, us, step, hsa, hra, hstep, ?_⟩
  rw [← hx, ← hsteps, compile_eq_ok_iff hjoin, hsplit]
  exact ⟨fun ⟨segments, h, h'⟩ => Except.ok.inj h ▸ h', fun h => ⟨_, rfl, h⟩⟩

/-- Two rules joined by an arrow are the one and then the other, exactly if the text after the fence
in the last segment of the first one means the same without the blanks at its end. -/
theorem compile_join_iff {a b : Text} {mode : Mode} {ra rb : Rule} (ha : isBlankText a = false)
    (hb : isBlankText b = false) (hrest : includesIgnoreCase a scriptRest = false)
    (hca : compile a mode = .ok ra) (hcb : compile b mode = .ok rb) :
    compile (a ++ joint ++ b) mode = .ok ⟨ra.steps ++ rb.steps⟩ ↔
      ∀ regex ∈ lastFence? a, readReplacement (trimEnd regex) = readReplacement regex := by
  obtain ⟨xs, y, us, step, hsa, -, hstep, hiff⟩ :=
    exists_compile_join_iff_cut (trim_ne_nil ha) (trim_ne_nil hb) hrest hca hcb
  have hfence : lastFence? a = y.regex := by
    rw [lastFence?, hsa]
    simp
  rw [hfence, hiff, compileSegment_cut_iff hstep]

/-- The arrow that closes a comment belongs to the text after a fence; the one after it joins. -/
theorem compile_join_iff_comment :
    ∃ ra rb, compile "div##<!--.*?-->".toList .css = .ok ra ∧
      compile "a@href".toList .css = .ok rb ∧
      compile ("div##<!--.*?-->".toList ++ joint ++ "a@href".toList) .css =
        .ok ⟨ra.steps ++ rb.steps⟩ := by
  have ha : (compile "div##<!--.*?-->".toList .css).toOption.isSome = true := by decide +kernel
  have hb : (compile "a@href".toList .css).toOption.isSome = true := by decide +kernel
  have hfence : lastFence? "div##<!--.*?-->".toList = some "<!--.*?-->".toList := by decide +kernel
  cases hra : compile "div##<!--.*?-->".toList .css with
  | error fault => rw [hra] at ha; cases ha
  | ok ra =>
    cases hrb : compile "a@href".toList .css with
    | error fault => rw [hrb] at hb; cases hb
    | ok rb =>
      refine ⟨ra, rb, rfl, rfl, ?_⟩
      refine (compile_join_iff (by decide +kernel) (by decide +kernel) (by decide +kernel) hra
        hrb).2 fun regex hregex => ?_
      rw [hfence] at hregex
      cases hregex
      rw [show trimEnd "<!--.*?-->".toList = "<!--.*?-->".toList by decide +kernel]

/-- What the steps of a rule put in the place of matches. -/
def templates (r : Rule) : List (Option Text) := r.steps.map fun s => s.replace.map (·.template)

/-- Blanks before a script at the end of the text after a fence are kept by the rule alone and cut
off before an arrow. -/
theorem not_compile_join :
    ¬ ∀ (a b : Text) (mode : Mode) (ra rb : Rule), isBlankText a = false → isBlankText b = false →
      includesIgnoreCase a scriptRest = false → compile a mode = .ok ra → compile b mode = .ok rb →
      compile (a ++ joint ++ b) mode = .ok ⟨ra.steps ++ rb.steps⟩ := by
  intro h
  have ha : (compile "p##a##b <js>1</js>".toList .css).toOption.map templates =
      some [some ['b', ' ']] := by decide +kernel
  have hb : (compile ['q'] .css).toOption.map templates = some [none] := by decide +kernel
  have hjoin : (compile ("p##a##b <js>1</js>".toList ++ joint ++ ['q']) .css).toOption.map
      templates = some [some ['b'], none] := by decide +kernel
  cases hra : compile "p##a##b <js>1</js>".toList .css with
  | error fault => rw [hra] at ha; cases ha
  | ok ra =>
    cases hrb : compile ['q'] .css with
    | error fault => rw [hrb] at hb; cases hb
    | ok rb =>
      rw [h _ _ _ ra rb (by decide +kernel) (by decide +kernel) (by decide +kernel) hra hrb]
        at hjoin
      rw [hra] at ha
      rw [hrb] at hb
      simp only [Except.toOption, Option.map_some, Option.some.injEq] at ha hb hjoin
      have hsteps : templates ⟨ra.steps ++ rb.steps⟩ = templates ra ++ templates rb :=
        List.map_append
      rw [hsteps, ha, hb] at hjoin
      exact absurd hjoin (by decide)

theorem scripts_of_compileSegment {x : Segment} {mode : Mode} {step : Step}
    (h : compileSegment mode x = .ok step) : step.scripts = x.scripts := by
  obtain ⟨replace, rfl, -⟩ := exists_of_compileSegment h
  rfl

/-- Two rules joined by an arrow are the one and then the other if the last step of the first one
has no script. -/
theorem compile_join {a b : Text} {mode : Mode} {ra rb : Rule} (ha : isBlankText a = false)
    (hb : isBlankText b = false) (hrest : includesIgnoreCase a scriptRest = false)
    (hca : compile a mode = .ok ra) (hcb : compile b mode = .ok rb)
    (hscripts : ∀ step ∈ ra.last?, step.scripts = []) :
    compile (a ++ joint ++ b) mode = .ok ⟨ra.steps ++ rb.steps⟩ := by
  obtain ⟨xs, y, us, step, hsa, hra, hstep, hiff⟩ :=
    exists_compile_join_iff_cut (trim_ne_nil ha) (trim_ne_nil hb) hrest hca hcb
  obtain ⟨s, hrun, -, -, -, hsegments⟩ := splitSteps_eq_ok_iff.1 hsa
  obtain ⟨rfl, hlast⟩ := List.append_inj' hsegments rfl
  obtain rfl : s.current = y := (List.cons.inj hlast).1
  have hnil : s.current.scripts = [] := by
    rw [← scripts_of_compileSegment hstep]
    refine hscripts step ?_
    rw [Rule.last?, hra, List.getLast?_concat]
    rfl
  rw [hiff, compileSegment_cut_iff hstep]
  intro regex hregex
  rw [trimEnd_of_scripts_eq_nil (isBlank_getLast_trim a) hrun hnil regex hregex]

end Extraction.Rule
