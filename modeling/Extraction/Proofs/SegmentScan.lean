import Extraction.Proofs.TextFacts
import Extraction.Rule.Compile

/-!
# How a scan of segments goes on

What one step of the scan does in each of its zones, and what the rest of the text has to do with
it: a step looks ahead for marks only, so that a text that is followed by a blank is read as it is
read alone.

## Main definitions

* `Parts`: texts that go on with no arrow and no mark of a script
* `Scan.Unmarked`: no script begins here
* `Scan.push`: the scan with a character added to what is under way
-/

namespace Extraction.Rule

open Text

theorem lowerAscii_scriptRest : lowerAscii scriptRest = scriptRest := rfl

/-- The text begins with no character by which an arrow or the mark of a script could go on. -/
def Parts (t : Text) : Prop :=
  ∀ d ∈ t.head?, d.toLower = d ∧ d ∉ arrow.tail ∧ d ∉ scriptOpen.tail ∧ d ∉ scriptRest.tail

theorem parts_cons {d : Char} (hd : d.toLower = d ∧ d ∉ arrow.tail ∧ d ∉ scriptOpen.tail ∧
    d ∉ scriptRest.tail) (t : Text) : Parts (d :: t) := by
  intro c hc
  obtain rfl : d = c := Option.some.inj hc
  exact hd

theorem parts_cons_of_isBlank {d : Char} (hd : isBlank d = true) (t : Text) : Parts (d :: t) := by
  have hnot {p : Text} (hp : p.all (!isBlank ·) = true) : d ∉ p := fun h => by
    have hblank := List.all_eq_true.1 hp d h
    rw [hd] at hblank
    cases hblank
  exact parts_cons ⟨toLower_of_isBlank hd, hnot (by decide), hnot (by decide), hnot (by decide)⟩ t

section Parts

variable {t : Text} (ht : Parts t) (c : Char) (cs : Text)

include ht

theorem arrow_prefix_append : arrow <+: c :: (cs ++ t) ↔ arrow <+: c :: cs :=
  prefix_append_iff (List.cons_ne_nil c cs) fun d hd => (ht d hd).2.1

theorem scriptOpen_prefix_append : scriptOpen <+: c :: (cs ++ t) ↔ scriptOpen <+: c :: cs :=
  prefix_append_iff (List.cons_ne_nil c cs) fun d hd => (ht d hd).2.2.1

theorem scriptRest_prefix_append :
    scriptRest <+: lowerAscii (c :: (cs ++ t)) ↔ scriptRest <+: lowerAscii (c :: cs) := by
  rw [← List.cons_append, lowerAscii, List.map_append]
  refine prefix_append_iff (List.cons_ne_nil _ _) fun d hd => ?_
  rw [List.head?_map] at hd
  obtain ⟨e, he, rfl⟩ := Option.map_eq_some_iff.1 hd
  rw [(ht e he).1]
  exact (ht e he).2.2.2

end Parts

/-- A fence does not reach over the end of a text, unless a hash sign ends the text and another one
follows. -/
theorem fence_prefix_append {c : Char} {cs t : Text}
    (ht : t.head? = some '#' → (c :: cs).getLast? ≠ some '#') :
    fence <+: c :: (cs ++ t) ↔ fence <+: c :: cs := by
  by_cases hhash : t.head? = some '#'
  · cases cs with
    | nil =>
      have hc : c ≠ '#' := fun hc => ht hhash (congrArg some hc)
      exact iff_of_false (not_prefix_of_head_ne hc) (not_prefix_of_head_ne hc)
    | cons e cs => simp [fence, List.cons_prefix_cons]
  · refine prefix_append_iff (List.cons_ne_nil c cs) fun d hd hmem => hhash ?_
    rw [Option.mem_def.1 hd, List.mem_singleton.1 hmem]

namespace Scan

/-- No script begins with the text, where scripts that take all that follows begin only outside
brackets. -/
structure Unmarked (s : Scan) (text : Text) : Prop where
  scriptOpen : ¬ scriptOpen <+: text
  scriptRest : s.brackets = [] → ¬ scriptRest <+: lowerAscii text

theorem unmarked_cons {s : Scan} {c : Char} (hopen : c ≠ '<') (hrest : c.toLower ≠ '@') (t : Text) :
    s.Unmarked (c :: t) :=
  ⟨not_prefix_of_head_ne hopen, fun _ => not_prefix_of_head_ne hrest⟩

/-- What a step does with a character that stands in no quoted run and begins no script. -/
def zoneStep (s : Scan) (c : Char) (cs : Text) : Except Fault (Scan × Nat) :=
  match s.current.regex with
  | some regex => s.regexStep regex c cs
  | none => s.bodyStep c cs

/-! ### One step -/

section Step

variable {s : Scan} {c : Char} {cs : Text}

theorem step_of_quote {q : Char} (hq : s.quote = some q) :
    s.step c cs = .ok (s.quotedStep q c cs) := by
  unfold step
  rw [hq]

theorem step_of_script {rest script after : Text} (hq : s.quote = none)
    (htext : c :: cs = scriptOpen ++ rest)
    (hcut : splitOnce? scriptClose rest = some (script, after)) :
    s.step c cs =
      .ok (s.addScript script, scriptOpen.length + script.length + scriptClose.length - 1) := by
  unfold step
  rw [hq]
  simp only [isPrefixOf?_eq_some_iff.2 htext, hcut]

theorem step_of_rest {script : Text} (hq : s.quote = none) (hopen : ¬ scriptOpen <+: c :: cs)
    (hbrackets : s.brackets = [])
    (hscript : dropPrefixIgnoreCase? Rule.scriptRest (c :: cs) = some script) :
    s.step c cs = .ok (s.addScript script, cs.length) := by
  unfold step
  rw [hq]
  simp only [isPrefixOf?_eq_none_iff.2 hopen, hbrackets, List.isEmpty_nil, if_true, hscript]

theorem step_of_unmarked (hq : s.quote = none) (h : s.Unmarked (c :: cs)) :
    s.step c cs = s.zoneStep c cs := by
  have hrest : (if s.brackets.isEmpty then dropPrefixIgnoreCase? Rule.scriptRest (c :: cs)
      else none) = none := by
    split
    · next hempty =>
      rw [dropPrefixIgnoreCase?_eq_none_iff, lowerAscii_scriptRest]
      exact h.scriptRest (List.isEmpty_iff.1 hempty)
    · rfl
  unfold step zoneStep
  rw [hq]
  cases s.current.regex with
  | none => simp only [isPrefixOf?_eq_none_iff.2 h.scriptOpen, hrest]
  | some regex => simp only [isPrefixOf?_eq_none_iff.2 h.scriptOpen, hrest]

/-- All that a step can do: read on in a quoted run, take a script, take the rest as a script, or
take a character of the body or of the text after the fence. -/
theorem step_cases {r : Scan × Nat} (h : s.step c cs = .ok r) :
    (∃ q, s.quote = some q ∧ s.quotedStep q c cs = r) ∨
    (s.quote = none ∧ ∃ rest script after, c :: cs = scriptOpen ++ rest ∧
      splitOnce? scriptClose rest = some (script, after) ∧
      (s.addScript script, scriptOpen.length + script.length + scriptClose.length - 1) = r) ∨
    (s.quote = none ∧ ¬ scriptOpen <+: c :: cs ∧ s.brackets = [] ∧
      ∃ script, dropPrefixIgnoreCase? Rule.scriptRest (c :: cs) = some script ∧
        (s.addScript script, cs.length) = r) ∨
    (s.quote = none ∧ s.Unmarked (c :: cs) ∧ s.zoneStep c cs = .ok r) := by
  unfold step at h
  split at h
  · next q hq => exact .inl ⟨q, hq, Except.ok.inj h⟩
  · next hq =>
    split at h
    · next rest hopen =>
      split at h
      · cases h
      · next script after hcut =>
        exact .inr (.inl ⟨hq, rest, script, after, isPrefixOf?_eq_some_iff.1 hopen, hcut,
          Except.ok.inj h⟩)
    · next hopen =>
      rw [isPrefixOf?_eq_none_iff] at hopen
      split at h
      · next script hscript =>
        split at hscript
        · next hempty =>
          exact .inr (.inr (.inl ⟨hq, hopen, List.isEmpty_iff.1 hempty, script, hscript,
            Except.ok.inj h⟩))
        · cases hscript
      · next hnone =>
        refine .inr (.inr (.inr ⟨hq, ⟨hopen, fun hempty => ?_⟩, h⟩))
        rw [if_pos (List.isEmpty_iff.2 hempty), dropPrefixIgnoreCase?_eq_none_iff,
          lowerAscii_scriptRest] at hnone
        exact hnone

/-- All that a character of the text after a fence can do: end it as an arrow, or belong to it. -/
theorem regexStep_cases {regex : Text} {r : Scan × Nat} (h : s.regexStep regex c cs = .ok r) :
    (endsBlank regex = true ∧ arrow <+: c :: cs ∧
      ∃ s₁, (s.setRegex (trimEnd regex)).close = .ok s₁ ∧ (s₁, 1) = r) ∨
    ((endsBlank regex = true → ¬ arrow <+: c :: cs) ∧ (s.setRegex (regex ++ [c]), 0) = r) := by
  unfold regexStep at h
  split at h
  · next hcond =>
    rw [Bool.and_eq_true, List.isPrefixOf_iff_prefix] at hcond
    cases hclose : (s.setRegex (trimEnd regex)).close with
    | error fault => rw [hclose] at h; cases h
    | ok s₁ =>
      rw [hclose] at h
      exact .inl ⟨hcond.1, hcond.2, s₁, rfl, Except.ok.inj h⟩
  · next hcond =>
    rw [Bool.and_eq_true, List.isPrefixOf_iff_prefix, not_and] at hcond
    exact .inr ⟨hcond, Except.ok.inj h⟩

/-- All that a character of a body can do: take another one along, be added with a quoted run or
brackets opened or closed or none of that, end the segment as an arrow, or begin the text after a
fence. -/
theorem bodyStep_cases {r : Scan × Nat} (h : s.bodyStep c cs = .ok r) :
    (c = '\\' ∧ s.escapeStep cs = r) ∨
    (∃ brackets, ({ s.addBody [c] with
      quote := if isQuote c && opensQuote s.previous then some c else s.quote, brackets }, 0) = r) ∨
    (arrow <+: c :: cs ∧ ∃ s₁, s.close = .ok s₁ ∧ (s₁, 1) = r) ∨
    (fence <+: c :: cs ∧ (s.setRegex [], 1) = r) := by
  unfold bodyStep at h
  split at h
  · next hc => exact .inl ⟨hc, Except.ok.inj h⟩
  · split at h
    · next hquote =>
      rw [if_pos hquote]
      exact .inr (.inl ⟨_, Except.ok.inj h⟩)
    · next hquote =>
      rw [if_neg hquote]
      split at h
      · exact .inr (.inl ⟨_, Except.ok.inj h⟩)
      · split at h
        · split at h
          · cases h
          · split at h
            · exact .inr (.inl ⟨_, Except.ok.inj h⟩)
            · cases h
        · split at h
          · next hcond =>
            rw [Bool.and_eq_true, List.isPrefixOf_iff_prefix] at hcond
            cases hclose : s.close with
            | error fault => rw [hclose] at h; cases h
            | ok s₁ =>
              rw [hclose] at h
              exact .inr (.inr (.inl ⟨hcond.2, s₁, rfl, Except.ok.inj h⟩))
          · split at h
            · next hcond =>
              rw [Bool.and_eq_true, List.isPrefixOf_iff_prefix] at hcond
              exact .inr (.inr (.inr ⟨hcond.2, Except.ok.inj h⟩))
            · exact .inr (.inl ⟨s.brackets, Except.ok.inj h⟩)

/-- A character of a body that opens and closes nothing and begins no mark. -/
theorem bodyStep_plain (hescape : c ≠ '\\') (hquote : (isQuote c && opensQuote s.previous) = false)
    (hopener : isOpener c = false) (hcloser : opener? c = none)
    (harrow : s.brackets = [] → ¬ arrow <+: c :: cs)
    (hfence : s.brackets = [] → ¬ fence <+: c :: cs) :
    s.bodyStep c cs = .ok (s.addBody [c], 0) := by
  have hmark (p : Text) (hp : s.brackets = [] → ¬ p <+: c :: cs) :
      (s.brackets.isEmpty && p.isPrefixOf (c :: cs)) = false := by
    rw [← Bool.not_eq_true, Bool.and_eq_true, List.isEmpty_iff, List.isPrefixOf_iff_prefix]
    exact fun h => hp h.1 h.2
  unfold bodyStep
  simp only [if_neg hescape, hquote, hopener, hcloser, hmark arrow harrow, hmark fence hfence,
    Bool.false_eq_true, if_false]

/-- A character of the text after a fence that begins no arrow after a blank. -/
theorem regexStep_plain {regex : Text} (h : endsBlank regex = true → ¬ arrow <+: c :: cs) :
    s.regexStep regex c cs = .ok (s.setRegex (regex ++ [c]), 0) := by
  unfold regexStep
  rw [if_neg]
  rw [Bool.and_eq_true, List.isPrefixOf_iff_prefix]
  exact fun harrow => h harrow.1 harrow.2

theorem close_eq_ok_iff {s₁ : Scan} : s.close = .ok s₁ ↔ s.current.isBlank = false ∧
    { s with segments := s.segments ++ [s.current], current := {} } = s₁ := by
  unfold close
  cases s.current.isBlank <;> simp

theorem close_of_not_blank (h : s.current.isBlank = false) :
    s.close = .ok { s with segments := s.segments ++ [s.current], current := {} } :=
  close_eq_ok_iff.2 ⟨h, rfl⟩

theorem step_of_body (hq : s.quote = none) (hregex : s.current.regex = none) {cs : Text}
    (h : s.Unmarked (c :: cs)) : s.step c cs = s.bodyStep c cs := by
  rw [step_of_unmarked hq h, zoneStep, hregex]

theorem step_escape (hq : s.quote = none) (hregex : s.current.regex = none) (t : Text) :
    s.step '\\' (c :: t) = .ok (s.addBody ['\\', c], 1) := by
  rw [step_of_body hq hregex (unmarked_cons (by decide) (by decide) _), bodyStep, if_pos rfl]
  rfl

/-- An arrow outside brackets ends the segment under way. -/
theorem step_arrow_of_body (hq : s.quote = none) (hregex : s.current.regex = none)
    (hbrackets : s.brackets = []) (hblank : s.current.isBlank = false) (t : Text) :
    s.step '-' ('>' :: t) =
      .ok ({ s with segments := s.segments ++ [s.current], current := {} }, 1) := by
  have harrow : arrow.isPrefixOf ('-' :: '>' :: t) = true :=
    List.isPrefixOf_iff_prefix.2 (List.prefix_append arrow t)
  have hquote : isQuote '-' = false := by decide
  have hopener : isOpener '-' = false := by decide
  have hcloser : opener? '-' = none := by decide
  rw [step_of_unmarked hq (unmarked_cons (by decide) (by decide) _), zoneStep, hregex]
  unfold bodyStep
  simp only [hquote, hopener, hcloser, hbrackets, harrow, close_of_not_blank hblank]
  rfl

/-- A fence outside brackets begins the text after it. -/
theorem step_fence (hq : s.quote = none) (hregex : s.current.regex = none)
    (hbrackets : s.brackets = []) (t : Text) :
    s.step '#' ('#' :: t) = .ok (s.setRegex [], 1) := by
  have harrow : arrow.isPrefixOf ('#' :: '#' :: t) = false := rfl
  have hfence : fence.isPrefixOf ('#' :: '#' :: t) = true :=
    List.isPrefixOf_iff_prefix.2 (List.prefix_append fence t)
  have hquote : isQuote '#' = false := by decide
  have hopener : isOpener '#' = false := by decide
  have hcloser : opener? '#' = none := by decide
  rw [step_of_body hq hregex (unmarked_cons (by decide) (by decide) _)]
  unfold bodyStep
  simp only [hquote, hopener, hcloser, hbrackets, harrow, hfence]
  rfl

/-- An arrow after a blank ends the text after a fence, without the blanks. -/
theorem step_arrow_of_regex {regex : Text} (hq : s.quote = none)
    (hregex : s.current.regex = some regex) (hends : endsBlank regex = true) (t : Text) :
    s.step '-' ('>' :: t) =
      .ok ({ s with
        segments := s.segments ++ [{ s.current with regex := some (trimEnd regex) }]
        current := {} }, 1) := by
  have harrow : arrow.isPrefixOf ('-' :: '>' :: t) = true :=
    List.isPrefixOf_iff_prefix.2 (List.prefix_append arrow t)
  have hblank : (s.setRegex (trimEnd regex)).current.isBlank = false := by
    rw [Segment.isBlank, setRegex, Option.isNone_some, Bool.and_false, Bool.false_and]
  rw [step_of_unmarked hq (unmarked_cons (by decide) (by decide) _), zoneStep, hregex]
  unfold regexStep
  simp only [hends, harrow, close_of_not_blank hblank]
  rfl

end Step

/-! ### A blank after the text -/

section Blank

variable {s s' : Scan} {c d : Char} {cs : Text} {extra : Nat}

/-- A backslash takes the next character along, whatever follows that. -/
theorem escapeStep_append (hcs : cs ≠ []) (t : Text) :
    s.escapeStep (cs ++ t) = s.escapeStep cs := by
  cases cs with
  | nil => exact (hcs rfl).elim
  | cons e cs => rfl

theorem escapeStep_extra (s : Scan) (cs : Text) : (s.escapeStep cs).2 ≤ cs.length := by
  cases cs with
  | nil => exact Nat.le_refl 0
  | cons e cs => exact Nat.le_add_left 1 cs.length

theorem quotedStep_append {q : Char} (hesc : c = '\\' → cs ≠ []) (t : Text) :
    s.quotedStep q c (cs ++ t) = s.quotedStep q c cs := by
  unfold quotedStep
  split
  · next hc => exact escapeStep_append (hesc hc) t
  · rfl

theorem arrow_isPrefixOf_append (hd : isBlank d = true) (t : Text) :
    arrow.isPrefixOf (c :: (cs ++ d :: t)) = arrow.isPrefixOf (c :: cs) := by
  rw [Bool.eq_iff_iff, List.isPrefixOf_iff_prefix, List.isPrefixOf_iff_prefix]
  exact arrow_prefix_append (parts_cons_of_isBlank hd t) c cs

theorem bodyStep_append (hd : isBlank d = true) (hesc : c = '\\' → cs ≠ []) (t : Text) :
    s.bodyStep c (cs ++ d :: t) = s.bodyStep c cs := by
  have hfence : fence.isPrefixOf (c :: (cs ++ d :: t)) = fence.isPrefixOf (c :: cs) := by
    rw [Bool.eq_iff_iff, List.isPrefixOf_iff_prefix, List.isPrefixOf_iff_prefix]
    refine fence_prefix_append fun hhash => ?_
    rw [Option.some.inj hhash] at hd
    cases hd
  unfold bodyStep
  rw [arrow_isPrefixOf_append hd, hfence]
  by_cases hc : c = '\\'
  · rw [if_pos hc, if_pos hc, escapeStep_append (hesc hc)]
  · rw [if_neg hc, if_neg hc]

theorem regexStep_append (hd : isBlank d = true) (regex t : Text) :
    s.regexStep regex c (cs ++ d :: t) = s.regexStep regex c cs := by
  unfold regexStep
  rw [arrow_isPrefixOf_append hd]

/-- A step of the zone does not see that a blank follows the text. -/
theorem zoneStep_append (hd : isBlank d = true)
    (hesc : s.current.regex = none → c = '\\' → cs ≠ []) (t : Text) :
    s.zoneStep c (cs ++ d :: t) = s.zoneStep c cs := by
  unfold zoneStep
  split
  · exact regexStep_append hd _ t
  · next hregex => exact bodyStep_append hd (hesc hregex) t

theorem Unmarked.append {t : Text} (h : s.Unmarked (c :: cs)) (ht : Parts t) :
    s.Unmarked (c :: (cs ++ t)) :=
  ⟨fun hopen => h.scriptOpen ((scriptOpen_prefix_append ht c cs).1 hopen),
    fun hempty hrest => h.scriptRest hempty ((scriptRest_prefix_append ht c cs).1 hrest)⟩

/-- A step does not see that a blank follows the text. A backslash at the end of a body is another
matter, and so is a script that takes all that follows. -/
theorem step_append (h : s.step c cs = .ok (s', extra)) (hd : isBlank d = true)
    (hrest : ¬ scriptRest <+: lowerAscii (c :: cs))
    (hesc : s.current.regex = none ∨ s.quote ≠ none → c = '\\' → cs ≠ []) (t : Text) :
    s.step c (cs ++ d :: t) = .ok (s', extra) := by
  rcases step_cases h with ⟨q, hq, hstep⟩ | ⟨hq, rest, script, after, htext, hcut, hr⟩ |
    ⟨-, -, -, script, hscript, -⟩ | ⟨hq, hunmarked, hstep⟩
  · have hne : s.quote ≠ none := by
      rw [hq]
      exact Option.some_ne_none q
    rw [step_of_quote hq, quotedStep_append (hesc (.inr hne)), hstep]
  · have htext' : c :: (cs ++ d :: t) = scriptOpen ++ (rest ++ d :: t) := by
      rw [← List.cons_append, htext, List.append_assoc]
    rw [step_of_script hq htext' (splitOnce?_append (d :: t) hcut), hr]
  · refine (hrest ?_).elim
    rw [← lowerAscii_scriptRest, ← dropPrefixIgnoreCase?_isSome_iff, hscript]
    rfl
  · rw [step_of_unmarked hq (hunmarked.append (parts_cons_of_isBlank hd t)),
      zoneStep_append hd fun hregex => hesc (.inl hregex), hstep]

end Blank

/-- A mark of two characters at the front of a text takes one character along. -/
theorem one_le_length_of_prefix {p : Text} (hp : p.length = 2) {c : Char} {cs : Text}
    (h : p <+: c :: cs) : 1 ≤ cs.length := by
  have hlen := h.length_le
  rw [hp, List.length_cons] at hlen
  omega

theorem regexStep_extra {s s' : Scan} {regex cs : Text} {c : Char} {extra : Nat}
    (h : s.regexStep regex c cs = .ok (s', extra)) : extra ≤ cs.length := by
  rcases regexStep_cases h with ⟨-, harrow, s₁, -, hr⟩ | ⟨-, hr⟩
  · cases hr
    exact one_le_length_of_prefix rfl harrow
  · cases hr
    exact Nat.zero_le _

theorem bodyStep_extra {s s' : Scan} {cs : Text} {c : Char} {extra : Nat}
    (h : s.bodyStep c cs = .ok (s', extra)) : extra ≤ cs.length := by
  rcases bodyStep_cases h with ⟨-, hr⟩ | ⟨brackets, hr⟩ | ⟨harrow, s₁, -, hr⟩ | ⟨hfence, hr⟩
  · have hextra := escapeStep_extra s cs
    rw [hr] at hextra
    exact hextra
  · cases hr
    exact Nat.zero_le _
  · cases hr
    exact one_le_length_of_prefix rfl harrow
  · cases hr
    exact one_le_length_of_prefix rfl hfence

/-- A step takes no more characters along than there are. -/
theorem step_extra {s s' : Scan} {cs : Text} {c : Char} {extra : Nat}
    (h : s.step c cs = .ok (s', extra)) : extra ≤ cs.length := by
  rcases step_cases h with ⟨q, -, hstep⟩ | ⟨-, rest, script, after, htext, hcut, hr⟩ |
    ⟨-, -, -, script, -, hr⟩ | ⟨-, -, hstep⟩
  · unfold quotedStep at hstep
    split at hstep
    · have hextra := escapeStep_extra s cs
      rw [hstep] at hextra
      exact hextra
    · cases hstep; exact Nat.zero_le _
  · cases hr
    have hlen := congrArg List.length htext
    rw [List.length_cons, List.length_append] at hlen
    have := length_of_splitOnce? hcut
    omega
  · cases hr; exact Nat.le_refl _
  · unfold zoneStep at hstep
    split at hstep
    · exact regexStep_extra hstep
    · exact bodyStep_extra hstep

/-! ### Runs -/

theorem run_cons {s s' : Scan} {c : Char} {cs : Text} {extra : Nat}
    (h : s.step c cs = .ok (s', extra)) :
    run s (c :: cs) = run { s' with previous := (c :: cs)[extra]? } (cs.drop extra) := by
  rw [run, h]

/-- A step that takes `w` along goes on after it. -/
theorem run_cons_append {s s' : Scan} {c : Char} {w t : Text}
    (h : s.step c (w ++ t) = .ok (s', w.length)) :
    run s (c :: (w ++ t)) = run { s' with previous := (c :: w).getLast? } t := by
  have hprevious : (c :: (w ++ t))[w.length]? = (c :: w).getLast? := by
    rw [List.getLast?_eq_getElem?, ← List.cons_append, List.getElem?_append_left (by simp)]
    rfl
  rw [run_cons h, hprevious, List.drop_left]

/-- The scan with a text read into the body of the current segment. -/
def readBody (s : Scan) (t : Text) : Scan :=
  { s.addBody t with previous := t.getLast?.or s.previous }

/-- The scan with a text read after the fence, where `regex` was read before it. -/
def readRegex (s : Scan) (regex t : Text) : Scan :=
  { s.setRegex (regex ++ t) with previous := t.getLast?.or s.previous }

/-- The scan with a text read into what is under way, the body or the text after the fence. -/
def read (s : Scan) (t : Text) : Scan :=
  match s.current.regex with
  | some regex => s.readRegex regex t
  | none => s.readBody t

section Read

variable (s : Scan) (t u : Text)

theorem readBody_nil : s.readBody [] = s := by
  unfold readBody addBody
  rw [List.append_nil]
  rfl

theorem readBody_append : s.readBody (t ++ u) = (s.readBody t).readBody u := by
  simp [readBody, addBody, List.getLast?_append, Option.or_assoc]

theorem readBody_previous {c : Char} (h : t.getLast? = some c) :
    (s.readBody t).previous = some c := by
  rw [readBody, h]
  rfl

theorem readRegex_append (regex : Text) :
    (s.readRegex regex t).readRegex (regex ++ t) u = s.readRegex regex (t ++ u) := by
  simp [readRegex, setRegex, List.getLast?_append, Option.or_assoc]

theorem read_of_body (h : s.current.regex = none) : s.read t = s.readBody t := by
  rw [read, h]

theorem read_of_regex {regex : Text} (h : s.current.regex = some regex) :
    s.read t = s.readRegex regex t := by
  rw [read, h]

theorem read_nil : s.read [] = s := by
  obtain ⟨segments, ⟨body, regex, scripts⟩, brackets, quote, previous⟩ := s
  cases regex with
  | none => exact readBody_nil _
  | some regex => rw [read_of_regex _ _ rfl, readRegex, List.append_nil]; rfl

theorem read_append : s.read (t ++ u) = (s.read t).read u := by
  obtain ⟨segments, ⟨body, regex, scripts⟩, brackets, quote, previous⟩ := s
  cases regex with
  | none => exact readBody_append _ t u
  | some regex => exact (readRegex_append _ t u regex).symm

theorem read_quote : (s.read t).quote = s.quote := by
  unfold read
  split <;> rfl

end Read

/-- A blank belongs to what is under way. -/
theorem run_blank {s : Scan} (hq : s.quote = none) {d : Char} (hd : isBlank d = true) (t : Text) :
    run s (d :: t) = run (s.read [d]) t := by
  have hne (e : Char) (he : isBlank e = false) : d ≠ e := by
    rintro rfl
    rw [he] at hd
    cases hd
  have hunmarked : s.Unmarked (d :: t) :=
    unmarked_cons (hne _ rfl) (by rw [toLower_of_isBlank hd]; exact hne _ rfl) t
  have hstep := step_of_unmarked hq hunmarked
  unfold zoneStep at hstep
  unfold read
  split at hstep
  · next regex hregex =>
    have harrow : ¬ arrow <+: d :: t := not_prefix_of_head_ne (hne _ rfl)
    exact run_cons (hstep.trans (regexStep_plain fun _ => harrow))
  · next hregex =>
    have harrow : ¬ arrow <+: d :: t := not_prefix_of_head_ne (hne _ rfl)
    have hfence : ¬ fence <+: d :: t := not_prefix_of_head_ne (hne _ rfl)
    have hplain := bodyStep_plain (s := s) (hne _ rfl)
      (by simp [isQuote, hne '"' rfl, hne '\'' rfl])
      (by simp [isOpener, hne '(' rfl, hne '[' rfl, hne '\x7b' rfl])
      (by simp only [opener?, hne ')' rfl, hne ']' rfl, hne '\x7d' rfl, if_false])
      (fun _ => harrow) fun _ => hfence
    exact run_cons (hstep.trans hplain)

/-- Blanks belong to what is under way. -/
theorem run_blanks {s : Scan} (hq : s.quote = none) {blanks : Text} (hb : AllBlank blanks)
    (t : Text) : run s (blanks ++ t) = run (s.read blanks) t := by
  induction blanks generalizing s with
  | nil => rw [read_nil, List.nil_append]
  | cons d blanks ih =>
    rw [List.cons_append, run_blank hq (hb d List.mem_cons_self),
      show s.read (d :: blanks) = (s.read [d]).read blanks from read_append s [d] blanks]
    exact ih ((read_quote s [d]).trans hq) fun c hc => hb c (List.mem_cons_of_mem _ hc)

/-- A backslash alone at the end of a body takes along a blank that follows. -/
theorem run_append_escape {s s₁ s' : Scan} {extra : Nat} (hstep : s.step '\\' [] = .ok (s₁, extra))
    (h : run { s₁ with previous := ['\\'][extra]? } (List.drop extra []) = .ok s')
    (hq : s'.quote = none) (hzone : s.current.regex = none ∨ s.quote ≠ none) {d : Char}
    (hd : isBlank d = true) (t : Text) : run s ('\\' :: d :: t) = run s' (d :: t) := by
  rw [run_blank hq hd]
  rcases step_cases hstep with ⟨q, hquote, hr⟩ | ⟨-, rest, script, after, htext, -, -⟩ |
    ⟨-, -, -, script, hscript, -⟩ | ⟨hquote, -, hr⟩
  · rw [quotedStep, if_pos rfl, escapeStep, Prod.mk.injEq] at hr
    obtain ⟨rfl, rfl⟩ := hr
    rw [List.drop_nil, run, Except.ok.injEq] at h
    subst h
    rw [show s.quote = none from hq] at hquote
    cases hquote
  · cases htext
  · cases hscript
  · have hregex : s.current.regex = none := hzone.resolve_right fun hne => hne hquote
    rw [zoneStep, hregex] at hr
    unfold bodyStep at hr
    rw [if_pos rfl, escapeStep, Except.ok.injEq, Prod.mk.injEq] at hr
    obtain ⟨rfl, rfl⟩ := hr
    rw [List.drop_nil, run, Except.ok.injEq] at h
    subst h
    have hread : (s.readBody ['\\']).read [d] = s.readBody ['\\', d] :=
      (read_of_body (s.readBody ['\\']) [d] hregex).trans (readBody_append s ['\\'] [d]).symm
    rw [run_cons (step_escape hquote hregex t)]
    exact congrArg (run · t) hread.symm

/-- A text that is read to its end, with no quoted run open there, is read in the same way when a
blank follows it; also if the text ends in a backslash, which then takes the blank along. -/
theorem run_append_blank {s s' : Scan} {a : Text} (h : run s a = .ok s') (hq : s'.quote = none)
    {d : Char} (hd : isBlank d = true) (hrest : ¬ scriptRest <:+: lowerAscii a) (t : Text) :
    run s (a ++ d :: t) = run s' (d :: t) := by
  fun_induction run s a with
  | case1 s =>
    cases h
    rfl
  | case2 s c cs fault hstep => cases h
  | case3 s c cs s₁ extra hstep ih =>
    have hnot : ¬ scriptRest <+: lowerAscii (c :: cs) := fun hp => hrest hp.isInfix
    by_cases hesc : (s.current.regex = none ∨ s.quote ≠ none) ∧ c = '\\' ∧ cs = []
    · obtain ⟨hzone, rfl, rfl⟩ := hesc
      exact run_append_escape hstep h hq hzone hd t
    · have hstep' := step_append hstep hd hnot
        (fun hzone hc hcs => hesc ⟨hzone, hc, hcs⟩) t
      have hextra := step_extra hstep
      rw [List.cons_append, run_cons hstep']
      have hprevious : (c :: (cs ++ d :: t))[extra]? = (c :: cs)[extra]? := by
        rw [← List.cons_append, List.getElem?_append_left (by rw [List.length_cons]; omega)]
      rw [hprevious, List.drop_append_of_le_length hextra]
      refine ih h fun hin => hrest (hin.trans ?_)
      exact ((List.drop_suffix extra cs).trans (List.suffix_cons c cs)).isInfix.map _

end Scan

/-! ### Whole rules -/

theorem splitSteps_eq_ok_iff {text : Text} {segments : List Segment} :
    splitSteps text = .ok segments ↔ ∃ s, Scan.run {} text = .ok s ∧ s.quote = none ∧
      s.brackets = [] ∧ s.current.isBlank = false ∧ s.segments ++ [s.current] = segments := by
  unfold splitSteps
  cases hrun : Scan.run {} text with
  | error fault =>
    refine ⟨fun h => (by cases h), ?_⟩
    rintro ⟨s, hs, -⟩
    cases hs
  | ok s =>
    obtain ⟨before, current, brackets, quote, previous⟩ := s
    change Scan.finish _ = _ ↔ _
    unfold Scan.finish
    cases quote with
    | some q =>
      refine ⟨fun h => (by cases h), ?_⟩
      rintro ⟨s, hs, hq, -⟩
      cases hs
      cases hq
    | none =>
      cases brackets with
      | cons b brackets =>
        refine ⟨fun h => (by cases h), ?_⟩
        rintro ⟨s, hs, -, hbrackets, -⟩
        cases hs
        cases hbrackets
      | nil =>
        cases hblank : current.isBlank with
        | true =>
          simp [Scan.close, hblank, Except.map]
        | false =>
          simp [Scan.close, hblank, Except.map]

/-- A rule that is not blank is compiled segment by segment. -/
theorem compile_eq_ok_iff {raw : Text} (hraw : trim raw ≠ []) {mode : Mode} {rule : Rule} :
    compile raw mode = .ok rule ↔ ∃ segments, splitSteps (trim raw) = .ok segments ∧
      segments.mapM (compileSegment mode) = .ok rule.steps := by
  unfold compile
  split
  · next h => exact (hraw h).elim
  · cases hsplit : splitSteps (trim raw) with
    | error fault => simp [bind, Except.bind]
    | ok segments =>
      obtain ⟨steps⟩ := rule
      cases hsteps : segments.mapM (compileSegment mode) with
      | error fault => simp [bind, Except.bind, hsteps]
      | ok steps' => simp [bind, Except.bind, hsteps]

/-- A segment that compiles gives its body to the selector and its scripts to the step. The
replacement is the one that the text after the fence writes. -/
theorem exists_of_compileSegment {x : Segment} {mode : Mode} {step : Step}
    (h : compileSegment mode x = .ok step) : ∃ replace,
      step = { selector := trim (resolveMode mode (trim x.body)).2
               mode := (resolveMode mode (trim x.body)).1, scripts := x.scripts, replace } ∧
      ∀ r ∈ replace, ∃ text ∈ x.regex, readReplacement text = .ok (some r) := by
  obtain ⟨body, regex, scripts⟩ := x
  unfold compileSegment at h
  cases regex with
  | none =>
    cases h
    exact ⟨none, rfl, nofun⟩
  | some text =>
    cases hreplace : readReplacement text with
    | error fault =>
      simp only [hreplace] at h
      cases h
    | ok replace =>
      simp only [hreplace] at h
      cases h
      refine ⟨replace, rfl, fun r hr => ⟨text, rfl, ?_⟩⟩
      rw [hreplace, Option.mem_def.1 hr]

end Extraction.Rule
