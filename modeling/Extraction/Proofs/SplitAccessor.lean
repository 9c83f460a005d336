import Extraction.Proofs.BalancedSelectors
import Extraction.Proofs.ScanFollows

/-!
# Accessors after selectors

An accessor stands after the last `@` that is outside brackets and quotes. The scan that looks for
it keeps count of what is open in its own way: it takes no notice of backslashes, and every
quotation mark opens or closes a quote for it. So it splits the accessor off a selector exactly if
nothing is open for it where the selector ends. On regular selectors, which have no backslash and no
apostrophe, it agrees with the scanner of segments, which has closed everything there.

That scanner is known to have read the whole selector into one body by the length of what it has
read: no step adds to the body more than it reads, so one that adds less could not be made up for.

## Main definitions

* `Text.Nesting.afterText`: what is open after a text
* `IsAccessorName`: the names of accessors
* `Rule.IsRegular`: texts that both scans read alike
* `Primitive.accessorValues`: the values that an accessor reads from elements
-/

namespace Extraction

open Text (Nesting)
open Markup (Place)

/-! ### Splitting -/

namespace Text

/-- What is open after a text, where `n` is open before it. -/
def Nesting.afterText (n : Nesting) (t : Text) : Nesting := t.foldl Nesting.after n

/-- The last separator counts exactly if nothing is open before it. -/
theorem cutLastOutside?_append {sep : Char} {s t : Text} (hs : sep ∉ s) (ht : sep ∉ t)
    (n : Nesting) : cutLastOutside? sep n (s ++ sep :: t) =
      if n.afterText s = .outside then some (s, t) else none := by
  induction s generalizing n with
  | nil =>
    rw [List.nil_append, cutLastOutside?, cutLastOutside?_of_notMem ht]
    by_cases h : n = .outside
    · rw [if_pos (show n.afterText [] = .outside from h)]
      exact if_pos ⟨h, rfl⟩
    · rw [if_neg (show ¬ n.afterText [] = .outside from h)]
      exact if_neg fun hn => h hn.1
  | cons c s ih =>
    rw [List.mem_cons, not_or] at hs
    have hsep : ¬ (n = .outside ∧ c = sep) := fun h => hs.1 h.2.symm
    rw [List.cons_append, cutLastOutside?, ih hs.2]
    change _ = if (n.after c).afterText s = .outside then _ else _
    by_cases h : (n.after c).afterText s = .outside
    · simp only [if_pos h]
    · simp only [if_neg h, if_neg hsep]

end Text

/-- The names of accessors: letters of the basic alphabet and hyphens. -/
def IsAccessorName (a : Text) : Prop := a ≠ [] ∧ ∀ c ∈ a, c.isAlpha = true ∨ c = '-'

instance (a : Text) : Decidable (IsAccessorName a) := inferInstanceAs (Decidable (_ ∧ _))

namespace IsAccessorName

variable {a : Text} (ha : IsAccessorName a)

include ha

theorem notMem_at : '@' ∉ a := fun hmem => by
  rcases ha.2 '@' hmem with h | h <;> revert h <;> decide

theorem isBlank {c : Char} (hc : c ∈ a) : Text.isBlank c = false := by
  have hcode : c.toNat = 45 ∨ (65 ≤ c.toNat ∧ c.toNat ≤ 90) ∨ (97 ≤ c.toNat ∧ c.toNat ≤ 122) := by
    rcases ha.2 c hc with halpha | rfl
    · rcases Bool.or_eq_true_iff.1 halpha with hupper | hlower
      · exact .inr (.inl (of_decide_eq_true hupper))
      · exact .inr (.inr ((Bool.and_eq_true_iff.1 hlower).imp of_decide_eq_true of_decide_eq_true))
    · exact .inl rfl
  rw [← Bool.not_eq_true]
  simp only [Text.isBlank, Bool.or_eq_true, Bool.and_eq_true, decide_eq_true_eq, beq_iff_eq]
  omega

theorem trimmed : Text.Trimmed a := .of_forall ha.1 fun _ hc => ha.isBlank hc

/-- A selector without blanks at its ends has none with an accessor after it. -/
theorem trim_append {css : Text} (hcss : Text.trim css = css) :
    Text.trim (css ++ '@' :: a) = css ++ '@' :: a := by
  have htail : Text.Trimmed ('@' :: a) := .of_forall (List.cons_ne_nil _ _) fun c hc => by
    rcases List.mem_cons.1 hc with rfl | hc
    · decide
    · exact ha.isBlank hc
  rw [Text.trim_append_of_head htail.isBlank_head hcss (List.cons_ne_nil _ _), htail.2]

end IsAccessorName

theorem splitAccessor_of_notMem {css : Text} (hat : '@' ∉ css) (htrim : Text.trim css = css) :
    splitAccessor css = (css, none) := by
  rw [splitAccessor, Text.cutLastOutside?_of_notMem hat]
  exact congrArg (·, none) htrim

/-- The name of an accessor after a selector is split off if nothing is open where the selector
ends; else all of it is the selector. -/
theorem splitAccessor_append {css a : Text} (hat : '@' ∉ css) (htrim : Text.trim css = css)
    (ha : IsAccessorName a) : splitAccessor (css ++ '@' :: a) =
      if Nesting.outside.afterText css = .outside then (css, some a)
      else (css ++ '@' :: a, none) := by
  rw [splitAccessor, Text.cutLastOutside?_append hat ha.notMem_at]
  by_cases h : Nesting.outside.afterText css = .outside
  · simp only [if_pos h, htrim, ha.trimmed.2]
  · simp only [if_neg h, ha.trim_append htrim]

/-! ### Selectors that both scans read alike -/

namespace Rule

/-- The text, where `n` is open and `previous` stands before it, has no backslash, and no quotation
mark outside quotes follows a letter or a digit. -/
def IsRegular (n : Nesting) (previous : Option Char) : Text → Prop
  | [] => True
  | c :: t => c ≠ '\\' ∧ (n.quote = none → isQuote c = true → opensQuote previous = true) ∧
      IsRegular (n.after c) (some c) t

instance decidableIsRegular (n : Nesting) (previous : Option Char) (t : Text) :
    Decidable (IsRegular n previous t) :=
  match t with
  | [] => .isTrue trivial
  | c :: t =>
    have := decidableIsRegular (n.after c) (some c) t
    inferInstanceAs (Decidable (_ ∧ _ ∧ _))

theorem isNestingMark_eq_false {c : Char} (hquote : isQuote c = false)
    (hbracket : isBracket c = false) : Text.isNestingMark c = false := by
  rw [← Bool.not_eq_true] at hquote hbracket ⊢
  intro hmark
  have hcases : c = '\'' ∨ c = '"' ∨ c = '[' ∨ c = '(' ∨ c = ']' ∨ c = ')' := by
    simpa [Text.isNestingMark] using hmark
  rcases hcases with rfl | rfl | rfl | rfl | rfl | rfl
  · exact hquote (by decide)
  · exact hquote (by decide)
  · exact hbracket (by decide)
  · exact hbracket (by decide)
  · exact hbracket (by decide)
  · exact hbracket (by decide)

namespace Scan

/-- What is open in a scan of segments, for a scan that knows no curly brackets. -/
def nesting (s : Scan) : Nesting := ⟨s.brackets.countP (· != '\x7b'), s.quote⟩

section Step

variable {s s' : Scan} {c : Char} {cs text : Text} {extra : Nat}

/-- A step adds to the body no more than what it reads. -/
theorem length_body_of_step (h : s.step c cs = .ok (s', extra)) :
    s'.current.body.length ≤ s.current.body.length + (extra + 1) := by
  have hescape (hr : s.escapeStep cs = (s', extra)) :
      s'.current.body.length ≤ s.current.body.length + (extra + 1) := by
    cases cs <;> (cases hr; simp [addBody])
  rcases step_cases h with ⟨q, -, hr⟩ | ⟨-, rest, script, after, -, -, hr⟩ |
    ⟨-, -, -, script, -, hr⟩ | ⟨-, -, hzone⟩
  · unfold quotedStep at hr
    split at hr
    · exact hescape hr
    · cases hr
      simp [addBody]
  · cases hr
    exact Nat.le_add_right _ _
  · cases hr
    exact Nat.le_add_right _ _
  · unfold zoneStep at hzone
    split at hzone
    · rcases regexStep_cases hzone with ⟨-, -, s₁, hclose, hr⟩ | ⟨-, hr⟩
      · obtain ⟨-, rfl⟩ := close_eq_ok_iff.1 hclose
        cases hr
        exact Nat.zero_le _
      · cases hr
        exact Nat.le_add_right _ _
    · rcases bodyStep_cases hzone with ⟨-, hr⟩ | ⟨brackets, hr⟩ | ⟨-, s₁, hclose, hr⟩ | ⟨-, hr⟩
      · exact hescape hr
      · cases hr
        simp [addBody]
      · obtain ⟨-, rfl⟩ := close_eq_ok_iff.1 hclose
        cases hr
        exact Nat.zero_le _
      · cases hr
        exact Nat.le_add_right _ _

theorem length_body_of_run (h : run s text = .ok s') :
    s'.current.body.length ≤ s.current.body.length + text.length := by
  fun_induction run s text with
  | case1 s =>
    cases h
    exact Nat.le_add_right _ _
  | case2 s c cs fault hstep => cases h
  | case3 s c cs s₁ extra hstep ih =>
    have hread := length_body_of_step hstep
    have hextra := step_extra hstep
    have hrest := ih h
    rw [List.length_drop] at hrest
    rw [List.length_cons]
    change _ ≤ s₁.current.body.length + _ at hrest
    omega

theorem not_grown (hsame : s'.current.body = s.current.body) :
    ¬ s.current.body.length + (extra + 1) ≤ s'.current.body.length := by
  rw [hsame]
  omega

/-- What opens and closes nothing changes nothing but the body, if it is added there. -/
theorem eq_addBody_of_bodyStep (h : s.bodyStep c cs = .ok (s', extra)) (hc : c ≠ '\\')
    (hquote : isQuote c = false) (hbracket : isBracket c = false)
    (hbody : s.current.body.length + (extra + 1) ≤ s'.current.body.length) :
    s' = s.addBody [c] ∧ extra = 0 := by
  rw [isBracket, Bool.or_eq_false_iff, Option.isSome_eq_false_iff,
    Option.isNone_iff_eq_none] at hbracket
  simp only [bodyStep, if_neg hc, hquote, hbracket, Bool.false_and, Bool.false_eq_true,
    if_false] at h
  split at h
  · -- An arrow begins a new body.
    cases hclose : s.close with
    | error fault => rw [hclose] at h; cases h
    | ok s₁ =>
      obtain ⟨-, rfl⟩ := close_eq_ok_iff.1 hclose
      rw [hclose] at h
      cases h
      cases hbody
  · split at h
    · cases h
      exact (not_grown rfl hbody).elim
    · cases h
      exact ⟨rfl, rfl⟩

/-- A character outside of quoted runs that is added to the body opens or closes the same for both
scans. -/
theorem nesting_of_step_outside (h : s.step c cs = .ok (s', extra)) (hc : c ≠ '\\')
    (hopens : isQuote c = true → opensQuote s.previous = true) (hq : s.quote = none)
    (hregex : s.current.regex = none) (hunmarked : s.Unmarked (c :: cs))
    (hbody : s.current.body.length + (extra + 1) ≤ s'.current.body.length) :
    extra = 0 ∧ s'.nesting = s.nesting.after c := by
  by_cases hquote : isQuote c = true
  · rw [step_quote hq hregex hquote (hopens hquote)] at h
    cases h
    rcases quote_cases hquote with rfl | rfl <;> simp [nesting, Nesting.after, hq, addBody]
  by_cases hopener : isOpener c = true
  · rw [step_opener hq hregex hopener] at h
    cases h
    rcases opener_cases hopener with rfl | rfl | rfl <;> simp [nesting, Nesting.after, hq, addBody]
  cases hcloser : opener? c with
  | some o =>
    obtain ⟨outer, houter⟩ := brackets_of_step_closer hq hregex hcloser h
    rw [step_closer hq hregex hcloser houter] at h
    cases h
    rcases closer_cases hcloser with rfl | rfl | rfl <;> cases hcloser <;>
      simp [nesting, Nesting.after, hq, addBody, houter]
  | none =>
    rw [Bool.not_eq_true] at hquote hopener
    have hbracket : isBracket c = false := by rw [isBracket, hopener, hcloser]; rfl
    rw [step_of_body hq hregex hunmarked] at h
    obtain ⟨rfl, rfl⟩ := eq_addBody_of_bodyStep h hc hquote hbracket hbody
    exact ⟨rfl, (Nesting.after_of_not_mark hq (isNestingMark_eq_false hquote hbracket)).symm⟩

/-- A character that is added to the body opens or closes the same for both scans. -/
theorem nesting_of_step (h : s.step c cs = .ok (s', extra)) (hc : c ≠ '\\')
    (hopens : s.quote = none → isQuote c = true → opensQuote s.previous = true)
    (hbody : s.current.body.length + (extra + 1) ≤ s'.current.body.length) :
    extra = 0 ∧ s'.nesting = s.nesting.after c := by
  rcases step_cases h with ⟨q, hq, hr⟩ | ⟨-, rest, script, after, -, -, hr⟩ |
    ⟨-, -, -, script, -, hr⟩ | ⟨hq, hunmarked, hzone⟩
  · rw [quotedStep, if_neg hc] at hr
    cases hr
    by_cases hclose : c = q <;> simp [nesting, Nesting.after, hq, hclose, addBody]
  · cases hr
    exact (not_grown rfl hbody).elim
  · cases hr
    exact (not_grown rfl hbody).elim
  · cases hregex : s.current.regex with
    | none => exact nesting_of_step_outside h hc (hopens hq) hq hregex hunmarked hbody
    | some regex =>
      rw [zoneStep, hregex] at hzone
      rcases regexStep_cases hzone with ⟨-, -, s₁, hclose, hr⟩ | ⟨-, hr⟩
      · obtain ⟨-, rfl⟩ := close_eq_ok_iff.1 hclose
        cases hr
        cases hbody
      · cases hr
        exact (not_grown rfl hbody).elim

/-- A regular text of which all is added to the body leaves the same open for both scans. -/
theorem nesting_of_run (h : run s text = .ok s') (hregular : IsRegular s.nesting s.previous text)
    (hbody : s.current.body.length + text.length ≤ s'.current.body.length) :
    s'.nesting = s.nesting.afterText text := by
  fun_induction run s text with
  | case1 s =>
    cases h
    rfl
  | case2 s c cs fault hstep => cases h
  | case3 s c cs s₁ extra hstep ih =>
    -- What the steps after this one add to the body is bounded, so this one adds all that it reads.
    obtain ⟨hc, hopens, hrest⟩ := hregular
    have hread := length_body_of_step hstep
    have hextra := step_extra hstep
    have hbound := length_body_of_run h
    rw [List.length_drop] at hbound
    rw [List.length_cons] at hbody
    change _ ≤ s₁.current.body.length + _ at hbound
    obtain ⟨rfl, hnesting⟩ := nesting_of_step hstep hc hopens (by omega)
    have hafter : s'.nesting = s₁.nesting.afterText cs := by
      refine ih h ?_ ?_
      · change IsRegular s₁.nesting (some c) cs
        rw [hnesting]
        exact hrest
      · change s₁.current.body.length + cs.length ≤ _
        omega
    rw [hafter, hnesting]
    rfl

end Step

end Scan

/-! ### Compiling -/

theorem resolveMode_suffix (mode : Mode) (body : Text) : (resolveMode mode body).2 <:+ body := by
  unfold resolveMode
  split
  · next found selector hhint =>
    obtain ⟨m, -, hm⟩ := List.exists_of_findSome?_eq_some hhint
    obtain ⟨rest, hrest, hfound⟩ := Option.map_eq_some_iff.1 hm
    cases hfound
    exact Text.dropPrefixIgnoreCase?_suffix hrest
  · split
    · exact List.suffix_rfl
    · split <;> exact List.suffix_rfl

section Compiled

variable {css : Text} {mode : Mode} {rule : Rule} (hrule : compile css .css = .ok rule)
  (hsteps : rule.steps = [plainStep css mode])

include hrule hsteps

/-- The scanner of segments has closed everything at the end of the selector, and has read it from
the body. -/
theorem exists_run_of_compile (hne : Text.trim css ≠ []) : ∃ s,
    Scan.run {} (Text.trim css) = .ok s ∧ s.quote = none ∧ s.brackets = [] ∧
    css = Text.trim (resolveMode .css (Text.trim s.current.body)).2 := by
  obtain ⟨segments, hsegments, hmap⟩ := (compile_eq_ok_iff hne).1 hrule
  obtain ⟨s, hrun, hquote, hbrackets, -, rfl⟩ := splitSteps_eq_ok_iff.1 hsegments
  rw [hsteps] at hmap
  obtain ⟨before, step, -, hstep, hlist⟩ := exists_of_mapM_append_singleton hmap
  obtain ⟨-, hlast⟩ :=
    List.append_inj' (show [] ++ [plainStep css mode] = before ++ [step] from hlist) rfl
  obtain rfl : plainStep css mode = step := (List.cons.inj hlast).1
  obtain ⟨replace, hplain, -⟩ := exists_of_compileSegment hstep
  exact ⟨s, hrun, hquote, hbrackets, congrArg Step.selector hplain⟩

/-- A selector that is the selector of its one step has no blanks at its ends. -/
theorem trim_of_compile : Text.trim css = css := by
  by_cases hne : Text.trim css = []
  · rw [compile, hne] at hrule
    cases hrule
    rw [hne]
    exact congrArg Step.selector (List.cons.inj hsteps).1
  · obtain ⟨s, -, -, -, hselector⟩ := exists_run_of_compile hrule hsteps hne
    rw [hselector, Text.trim_trim]

/-- Nothing is open at the end of a regular selector that is the selector of its one step. -/
theorem afterText_of_isRegular (hregular : IsRegular .outside none css) :
    Nesting.outside.afterText css = .outside := by
  have htrim := trim_of_compile hrule hsteps
  by_cases hne : css = []
  · rw [hne]
    rfl
  obtain ⟨s, hrun, hquote, hbrackets, hselector⟩ :=
    exists_run_of_compile hrule hsteps (by rwa [htrim])
  rw [htrim] at hrun
  have hlength : css.length ≤ s.current.body.length :=
    calc css.length
      _ = (Text.trim (resolveMode .css (Text.trim s.current.body)).2).length :=
        congrArg List.length hselector
      _ ≤ (resolveMode .css (Text.trim s.current.body)).2.length := (Text.trim_infix _).length_le
      _ ≤ (Text.trim s.current.body).length := (resolveMode_suffix _ _).length_le
      _ ≤ s.current.body.length := (Text.trim_infix _).length_le
  have hnesting := Scan.nesting_of_run hrun hregular (by simpa using hlength)
  rw [Scan.nesting, hquote, hbrackets] at hnesting
  exact hnesting.symm

end Compiled

end Rule

/-! ### Selecting -/

namespace Primitive

/-- The elements that a selector without an accessor selects; the empty one selects the element that
it is applied to. -/
def selectedPlaces (place : Place) (css : Text) : Except RuleError (List Place) :=
  if css.isEmpty then pure [place] else Css.select place css

/-- The values of an accessor on elements, without the empty ones. -/
def accessorValues (name : Text) (nodes : List Place) : List Text :=
  (nodes.flatMap (Accessor.ofName name).read).filter (!·.isEmpty)

section Select

variable {place : Place} {s css name : Text}

theorem select_of_splitAccessor {accessor : Option Text} (h : splitAccessor s = (css, accessor)) :
    (element place).select .css s = (selectedPlaces place css).map fun nodes =>
      match accessor.filter (!·.isEmpty) with
      | none => nodes.map element
      | some name => (accessorValues name nodes).map text := by
  rw [select, selectCss, place?, h]
  unfold selectedPlaces
  by_cases hcss : css.isEmpty = true
  · simp only [if_pos hcss]
    cases accessor.filter (!·.isEmpty) <;> rfl
  · simp only [if_neg hcss]
    cases Css.select place css with
    | error e => rfl
    | ok nodes => cases accessor.filter (!·.isEmpty) <;> rfl

theorem select_of_splitAccessor_none (h : splitAccessor s = (css, none)) :
    (element place).select .css s = (selectedPlaces place css).map (·.map element) :=
  select_of_splitAccessor h

theorem select_of_splitAccessor_some (h : splitAccessor s = (css, some name)) (hname : name ≠ []) :
    (element place).select .css s =
      (selectedPlaces place css).map fun nodes => (accessorValues name nodes).map text := by
  obtain ⟨c, rest, rfl⟩ := List.exists_cons_of_ne_nil hname
  exact select_of_splitAccessor h

/-- What a selector and the name of an accessor after it select: the values of the accessor, or else
the elements that all of it selects as a selector. -/
theorem select_append_accessor {a : Text} (hat : '@' ∉ css) (htrim : Text.trim css = css)
    (ha : IsAccessorName a) : (element place).select .css (css ++ '@' :: a) =
      if Nesting.outside.afterText css = .outside
      then (selectedPlaces place css).map fun nodes => (accessorValues a nodes).map text
      else (Css.select place (css ++ '@' :: a)).map (·.map element) := by
  have hsplit := splitAccessor_append hat htrim ha
  by_cases h : Nesting.outside.afterText css = .outside
  · rw [if_pos h] at hsplit ⊢
    exact select_of_splitAccessor_some hsplit ha.1
  · rw [if_neg h] at hsplit ⊢
    rw [select_of_splitAccessor_none hsplit, selectedPlaces]
    cases css <;> rfl

/-- What a selector without an accessor selects are elements. -/
theorem exists_selectedPlaces {found : List Primitive} (hat : '@' ∉ css)
    (htrim : Text.trim css = css) (h : (element place).select .css css = .ok found) :
    ∃ nodes, selectedPlaces place css = .ok nodes ∧ found = nodes.map element := by
  rw [select_of_splitAccessor_none (splitAccessor_of_notMem hat htrim)] at h
  cases hnodes : selectedPlaces place css with
  | error e => rw [hnodes] at h; cases h
  | ok nodes =>
    rw [hnodes] at h
    exact ⟨nodes, rfl, (Except.ok.inj h).symm⟩

end Select

theorem map_element_eq_map_text_iff {nodes : List Place} {values : List Text} :
    nodes.map element = values.map text ↔ values = [] ∧ nodes = [] := by
  cases nodes <;> cases values <;> simp

section Compiled

variable {place : Place} {css a : Text} {rule : Rule} {mode : Mode} {found : List Primitive}
  (hrule : Rule.compile css .css = .ok rule) (hsteps : rule.steps = [Rule.plainStep css mode])
  (hat : '@' ∉ css) (ha : IsAccessorName a) (hfound : (element place).select .css css = .ok found)

include hrule hsteps hat ha hfound

theorem exists_select_accessor : ∃ nodes, found = nodes.map element ∧
    (element place).select .css (css ++ '@' :: a) =
      if Nesting.outside.afterText css = .outside then .ok ((accessorValues a nodes).map text)
      else (Css.select place (css ++ '@' :: a)).map (·.map element) := by
  have htrim := Rule.trim_of_compile hrule hsteps
  obtain ⟨nodes, hnodes, rfl⟩ := exists_selectedPlaces hat htrim hfound
  refine ⟨nodes, rfl, ?_⟩
  rw [select_append_accessor hat htrim ha, hnodes]
  rfl

/-- An accessor after a regular selector that selects elements reads them. -/
theorem select_accessor (hregular : Rule.IsRegular .outside none css) :
    ∃ nodes, found = nodes.map element ∧
      (element place).select .css (css ++ '@' :: a) = .ok ((accessorValues a nodes).map text) := by
  obtain ⟨nodes, hnodes, hselect⟩ := exists_select_accessor hrule hsteps hat ha hfound
  rw [if_pos (Rule.afterText_of_isRegular hrule hsteps hregular)] at hselect
  exact ⟨nodes, hnodes, hselect⟩

/-- An accessor after a selector that selects elements reads them if nothing is open where the
selector ends. Else the accessor is part of the selector; what that selects are elements again, so
it is what the accessor reads only if both are nothing. -/
theorem select_accessor_iff : ∃ nodes, found = nodes.map element ∧
    ((element place).select .css (css ++ '@' :: a) = .ok ((accessorValues a nodes).map text) ↔
      Nesting.outside.afterText css = .outside ∨
        (accessorValues a nodes = [] ∧ Css.select place (css ++ '@' :: a) = .ok [])) := by
  obtain ⟨nodes, hnodes, hselect⟩ := exists_select_accessor hrule hsteps hat ha hfound
  refine ⟨nodes, hnodes, ?_⟩
  by_cases hopen : Nesting.outside.afterText css = .outside
  · rw [if_pos hopen] at hselect
    exact iff_of_true hselect (.inl hopen)
  rw [if_neg hopen] at hselect
  rw [hselect, or_iff_right hopen]
  cases hwhole : Css.select place (css ++ '@' :: a) with
  | error e => exact iff_of_false nofun fun h => nomatch h.2
  | ok elements =>
    change Except.ok (elements.map element) = _ ↔ _
    rw [Except.ok.injEq, map_element_eq_map_text_iff, Except.ok.injEq]

end Compiled

/-- The outer element of the page `<div><p class="it's" title="a]b">x</p></div>`. -/
def titledParagraph : Place :=
  ⟨⟨.document [.element ⟨.html, "div".toList⟩ [] [.element ⟨.html, ['p']⟩
    [⟨[], "class".toList, "it's".toList⟩, ⟨[], "title".toList, "a]b".toList⟩]
    [.text ['x']]]], false⟩, [0]⟩

/-- The bracket and the quotes around it are closed where the selector ends. -/
theorem select_accessor_iff_quoted :
    let p := element titledParagraph
    let css := "p[title='A]B' i]".toList
    let a := "text".toList
    ∃ (rule : Rule) (nodes : List Place), Rule.compile css .css = .ok rule ∧
      rule.steps = [Rule.plainStep css .css] ∧ '@' ∉ css ∧ IsAccessorName a ∧
      p.select .css css = .ok (nodes.map element) ∧
      p.select .css (css ++ '@' :: a) = .ok [text ['x']] := by
  intro p css a
  have hrule : (Rule.compile css .css).toOption.isSome = true := by decide +kernel
  have hfound : (p.select .css css).toOption.isSome = true := by decide +kernel
  obtain ⟨rule, hrule⟩ := Option.isSome_iff_exists.mp hrule
  obtain ⟨found, hfound⟩ := Option.isSome_iff_exists.mp hfound
  replace hrule := eq_ok_of_toOption hrule
  replace hfound := eq_ok_of_toOption hfound
  have hsteps : rule.steps = [Rule.plainStep css .css] :=
    Rule.steps_of_markless ⟨by decide, by decide, by decide, by decide⟩ (by decide) hrule
  have ha : IsAccessorName a := by decide
  obtain ⟨nodes, rfl, hiff⟩ := select_accessor_iff hrule hsteps (by decide) ha hfound
  have hselect := hiff.mpr (.inl (by decide))
  have htexts : (p.select .css (css ++ '@' :: a)).toOption.map (·.map asText) = some [['x']] := by
    decide +kernel
  refine ⟨rule, nodes, hrule, hsteps, by decide, ha, hfound, ?_⟩
  have hvalues : accessorValues a nodes = [['x']] := by
    rw [hselect] at htexts
    simpa [Except.toOption, Function.comp_def, asText] using htexts
  rw [hselect, hvalues]
  rfl

/-- The escaped apostrophe of a class is taken for a quote that is not closed, so that the accessor
becomes part of a selector that is malformed. -/
theorem not_select_accessor :
    ¬ ∀ (place : Place) (css a : Text) (rule : Rule) (mode : Mode) (found : List Primitive),
      Rule.compile css .css = .ok rule → rule.steps = [Rule.plainStep css mode] → '@' ∉ css →
      IsAccessorName a → (element place).select .css css = .ok found →
      ∃ nodes, found = nodes.map element ∧
        (element place).select .css (css ++ '@' :: a) =
          .ok ((accessorValues a nodes).map text) := by
  intro hall
  let css := ".it\\'s".toList
  have hrule : (Rule.compile css .css).toOption.isSome = true := by decide +kernel
  have hfound : ((element titledParagraph).select .css css).toOption.isSome = true := by
    decide +kernel
  obtain ⟨rule, hrule⟩ := Option.isSome_iff_exists.mp hrule
  obtain ⟨found, hfound⟩ := Option.isSome_iff_exists.mp hfound
  replace hrule := eq_ok_of_toOption hrule
  have hsteps : rule.steps = [Rule.plainStep css .css] :=
    Rule.steps_of_markless ⟨by decide, by decide, by decide, by decide⟩ (by decide) hrule
  obtain ⟨nodes, -, hselect⟩ := hall titledParagraph css "text".toList rule .css found hrule hsteps
    (by decide) (by decide) (eq_ok_of_toOption hfound)
  have hfails : ((element titledParagraph).select .css (css ++ "@text".toList)).toOption.isSome =
      false := by decide +kernel
  rw [show css ++ "@text".toList = css ++ '@' :: "text".toList from rfl, hselect] at hfails
  cases hfails

end Primitive

end Extraction
