import Extraction.Proofs.ScriptWrites

/-!
# One text or many

A rule may be asked for one text or for the list of its texts. Both select alike and part only at
the last step, where the one joins the items and the other keeps them apart. So without scripts and
replacement there the one text is the texts of the list, one to a line; and of a single item the
list is the one text, unless a script makes an array of it or the replacement cuts to a group.

## Main definitions

* `Step.oneText`, `Step.allTexts`: what the last step makes of the items it has selected
-/

namespace Extraction

namespace Step

variable (engine : Engine) (s : Step)

/-- The one text that the last step of a rule makes of all that it has selected. -/
def oneText (ps : List Primitive) : Effect Text := do
  let text ← if s.hasScripts then Json.plainText <$> engine.runAll s.scripts (Rule.joinedValue ps)
    else pure (Rule.joinTexts ps)
  return match s.replace with
    | some replace => replace.apply text
    | none => text

/-- The texts that the last step of a rule makes of what it has selected. -/
def allTexts (ps : List Primitive) : Effect (List Text) := do
  let texts ← Rule.scriptTexts engine s ps
  return match s.replace with
    | some replace => texts.map replace.replaceAll
    | none => texts

end Step

namespace Rule

variable (engine : Engine) {r : Rule} {last : Step}

theorem applySingle_eq (hlast : r.last? = some last) (input : Primitive) :
    r.applySingle engine input = selectThrough engine r.steps [input] >>= last.oneText engine := by
  unfold applySingle
  rw [hlast]
  rfl

theorem applyList_eq (hlast : r.last? = some last) (input : Primitive) :
    r.applyList engine input = selectThrough engine r.steps [input] >>= last.allTexts engine := by
  unfold applyList
  rw [hlast]
  rfl

/-! ### One item -/

theorem joinTexts_singleton (p : Primitive) : joinTexts [p] = p.asText := by
  simp [joinTexts]

/-- Of one item the scripts see the same, whether it stands alone in a list or is joined. -/
theorem joinedValue_singleton (p : Primitive) : joinedValue [p] = finalValue p := by
  cases p <;> simp [joinedValue, finalValue, joinTexts_singleton]

end Rule

theorem Json.plainTexts_eq_singleton {v : Json} (hv : ∀ items, v ≠ .arr items) :
    v.plainTexts = [v.plainText] := by
  cases v with
  | arr items => exact absurd rfl (hv items)
  | _ => rfl

theorem Replacement.apply_of_group_eq_none {r : Replacement} (hr : r.group = none) (s : Text) :
    r.apply s = r.replaceAll s := by
  rw [Replacement.apply, hr]

namespace Step

variable {engine : Engine} {s : Step}

/-- Without scripts and replacement the one text is all texts, one to a line. -/
theorem oneText_of_plain (hscripts : s.scripts = []) (hreplace : s.replace = none)
    (ps : List Primitive) :
    s.oneText engine ps = (['\n'].intercalate ·) <$> s.allTexts engine ps := by
  have hnone := hasScripts_of_nil hscripts
  simp [oneText, allTexts, Rule.scriptTexts, Rule.joinTexts, hnone, hreplace]

/-- Of one item there is one text in the list if no array comes of it and no group is cut out. -/
theorem allTexts_singleton {p : Primitive} {vs : Variables}
    (harray : s.scripts ≠ [] → ∀ items,
      ((engine.runAll s.scripts (Rule.finalValue p)).run vs).1 ≠ .ok (.arr items))
    (hgroup : ∀ replace ∈ s.replace, replace.group = none) :
    (s.allTexts engine [p]).run vs = ((fun text => [text]) <$> s.oneText engine [p]).run vs := by
  have hreplaced (text : Text) :
      (match s.replace with
        | some replace => [text].map replace.replaceAll
        | none => [text]) =
      [match s.replace with
        | some replace => replace.apply text
        | none => text] := by
    cases hreplace : s.replace with
    | none => rfl
    | some replace => simp [Replacement.apply_of_group_eq_none (hgroup replace hreplace)]
  by_cases hscripts : s.scripts = []
  · have hnone := hasScripts_of_nil hscripts
    simp [oneText, allTexts, Rule.scriptTexts, Rule.joinTexts_singleton, hnone, ← hreplaced]
  · have hsome : s.hasScripts = true := by simp [hasScripts, hscripts]
    have hnotArray := harray hscripts
    simp only [oneText, allTexts, Rule.scriptTexts, hsome, Rule.joinedValue_singleton,
      Bool.not_true, Bool.false_eq_true, if_true, if_false, map_eq_pure_bind, bind_assoc,
      pure_bind, run_bind]
    generalize (engine.runAll s.scripts (Rule.finalValue p)).run vs = outcome at hnotArray ⊢
    obtain ⟨e | v, vs'⟩ := outcome
    · rfl
    · have hv : ∀ items, v ≠ .arr items := fun items h => hnotArray items (congrArg Except.ok h)
      simp only [Json.plainTexts_eq_singleton hv, hreplaced]

end Step

namespace Rule

variable (engine : Engine) {r : Rule} {last : Step}

/-- What is made of an answer changes neither a failure nor the variables. -/
theorem run_map {α β : Type} (f : α → β) (p : Effect α) (vs : Variables) :
    (f <$> p).run vs = ((p.run vs).1.map f, (p.run vs).2) := by
  rw [map_eq_pure_bind, run_bind]
  obtain ⟨e | a, vs'⟩ := p.run vs <;> rfl

/-- A rule whose last step has neither scripts nor a replacement yields as one text the texts of its
list, one to a line. If its last step selects one item, the list is the one text alone, unless the
scripts of the step make an array of the item or its replacement cuts to a group. In both cases the
one fails as the other does, and leaves the same variables. -/
theorem applySingle_agrees_applyList (hlast : r.last? = some last) (input : Primitive)
    (vs : Variables) :
    let one := (r.applySingle engine input).run vs
    let many := (r.applyList engine input).run vs
    (last.scripts = [] → last.replace = none →
      one = (many.1.map (['\n'].intercalate ·), many.2)) ∧
    ∀ item vs', (selectThrough engine r.steps [input]).run vs = (.ok [item], vs') →
      (last.scripts ≠ [] → ∀ items,
        ((engine.runAll last.scripts (finalValue item)).run vs').1 ≠ .ok (.arr items)) →
      (∀ replace ∈ last.replace, replace.group = none) →
      many = (one.1.map fun text => [text], one.2) := by
  intro one many
  have hone := applySingle_eq engine hlast input
  have hmany := applyList_eq engine hlast input
  constructor
  · intro hscripts hreplace
    have hjoin : r.applySingle engine input =
        (['\n'].intercalate ·) <$> r.applyList engine input := by
      rw [hone, hmany, map_bind]
      exact bind_congr (Step.oneText_of_plain hscripts hreplace)
    simp only [one, many, hjoin, run_map]
  · intro item vs' hitem harray hgroup
    have hsingle : (r.applyList engine input).run vs =
        ((fun text => [text]) <$> r.applySingle engine input).run vs := by
      rw [hone, hmany, map_bind, run_bind, run_bind, hitem]
      exact Step.allTexts_singleton harray hgroup
    simp only [one, many, hsingle, run_map]

/-- A script writes down the object that it sees. Then the letters of the text are two texts or two
lines; and the object as a whole, out of which a second script and the letter a are taken, is one
text. -/
theorem applySingle_agrees_applyList_writing :
    let engine : Engine := fun script v => do
      modify (·.put script v.plainText)
      return v
    let first : Step := ⟨[], .json, [['s']], none⟩
    let letters : Step := ⟨"[a-z]".toList, .text, [], none⟩
    let last : Step := ⟨[], .json, [['t']], (Regex.compile? ['a']).map (⟨·, [], none⟩)⟩
    let input := Primitive.object (.obj [(['a'], .str ['b'])])
    let vs' : Variables := ⟨[(['s'], "\x7b\"a\":\"b\"\x7d".toList)]⟩
    let one (rule : Rule) := (rule.applySingle engine input).run .empty
    let many (rule : Rule) := (rule.applyList engine input).run .empty
    (last? ⟨[first, letters]⟩ = some letters ∧ letters.scripts = [] ∧ letters.replace = none ∧
      one ⟨[first, letters]⟩ = ((many ⟨[first, letters]⟩).1.map (['\n'].intercalate ·),
        (many ⟨[first, letters]⟩).2) ∧
      (one ⟨[first, letters]⟩).1.toOption = some ['a', '\n', 'b']) ∧
    (last? ⟨[first, last]⟩ = some last ∧
      (selectThrough engine [first, last] [input]).run .empty = (.ok [input], vs') ∧
      (∀ items, ((engine.runAll last.scripts (finalValue input)).run vs').1 ≠ .ok (.arr items)) ∧
      (∀ replace ∈ last.replace, replace.group = none) ∧
      many ⟨[first, last]⟩ = ((one ⟨[first, last]⟩).1.map fun text => [text],
        (one ⟨[first, last]⟩).2) ∧
      (one ⟨[first, last]⟩).1.toOption = some "\x7b\"\":\"b\"\x7d".toList) := by
  intro engine first letters last input vs' one many
  have hlast : last? ⟨[first, last]⟩ = some last := rfl
  have hinput : (selectThrough engine [first, last] [input]).run .empty = (.ok [input], vs') := rfl
  have harray : ∀ items,
      ((engine.runAll last.scripts (finalValue input)).run vs').1 ≠ .ok (.arr items) := by
    intro items h
    cases h
  have hgroup : ∀ replace ∈ last.replace, replace.group = none := by
    intro replace hreplace
    simp only [last, Option.mem_def, Option.map_eq_some_iff] at hreplace
    obtain ⟨regex, -, rfl⟩ := hreplace
    rfl
  constructor
  · have hletters : last? ⟨[first, letters]⟩ = some letters := rfl
    have hlines := (applySingle_agrees_applyList engine hletters input .empty).1 rfl rfl
    exact ⟨hletters, rfl, rfl, hlines, by decide +kernel⟩
  · have halone := (applySingle_agrees_applyList engine hlast input .empty).2 input vs' hinput
      (fun _ => harray) hgroup
    exact ⟨hlast, hinput, harray, hgroup, halone, by decide +kernel⟩

end Rule

end Extraction
