import Extraction.Proofs.ReadingFailures

/-!
# Rules without scripts go item by item

Steps without scripts work on many items at once as they work on the items one by one, so that a
rule cut in two at any place is its second part applied to each of the items that the first part
hands on. Breadth first or item by item makes no difference, neither to the texts and their order
nor to whether there are any.

## Main definitions

* `Itemwise`: functions that find in a list of items what they find in the items one by one
* `Rule.handed`: the items that steps without scripts hand on
* `Rule.textsAfter`: the texts that the last of such steps yields
-/

namespace Extraction

/-! ### Going item by item -/

section Itemwise

variable {ε α β γ : Type}

/-- What is found in a list of items is what is found in them one after the other, and something is
found in the list exactly if something is found in each of them. -/
structure Itemwise (f : List α → Except ε (List β)) : Prop where
  nil : f [] = .ok []
  append (xs ys : List α) (zs : List β) : f (xs ++ ys) = .ok zs ↔
    ∃ us, f xs = .ok us ∧ ∃ vs, f ys = .ok vs ∧ us ++ vs = zs

/-- Each item has something found in it exactly if there is a list of all that is found. -/
theorem exists_forall₂_iff {R : α → β → Prop} {xs : List α} :
    (∃ ys, List.Forall₂ R xs ys) ↔ ∀ x ∈ xs, ∃ y, R x y := by
  induction xs with
  | nil => simp
  | cons x xs ih =>
    rw [List.forall_mem_cons, ← ih]
    constructor
    · rintro ⟨ys, hys⟩
      cases hys with
      | cons hy hys => exact ⟨⟨_, hy⟩, _, hys⟩
    · rintro ⟨⟨y, hy⟩, ys, hys⟩
      exact ⟨y :: ys, .cons hy hys⟩

namespace Itemwise

variable {f : List α → Except ε (List β)} {g : List β → Except ε (List γ)}

/-- What cannot fail goes item by item if it keeps lists that are joined apart. -/
theorem ofAppend {h : List α → List β} (hnil : h [] = [])
    (happend : ∀ xs ys, h (xs ++ ys) = h xs ++ h ys) :
    Itemwise fun xs => (.ok (h xs) : Except ε (List β)) where
  nil := by rw [hnil]
  append xs ys zs := by simp [happend]

/-- Two of them, one after the other, go item by item. In a list all items go through the first one
before any goes through the second; this matters to which failure comes first but not to whether
there is one. -/
theorem bind (hf : Itemwise f) (hg : Itemwise g) : Itemwise fun xs => f xs >>= g where
  nil := by
    rw [hf.nil]
    exact hg.nil
  append xs ys zs := by
    simp only [bind_eq_ok_iff]
    constructor
    · rintro ⟨found, hfound, hzs⟩
      obtain ⟨us, hus, vs, hvs, rfl⟩ := (hf.append xs ys found).mp hfound
      obtain ⟨us', hus', vs', hvs', rfl⟩ := (hg.append us vs zs).mp hzs
      exact ⟨us', ⟨us, hus, hus'⟩, vs', ⟨vs, hvs, hvs'⟩, rfl⟩
    · rintro ⟨us', ⟨us, hus, hus'⟩, vs', ⟨vs, hvs, hvs'⟩, rfl⟩
      refine ⟨us ++ vs, (hf.append xs ys _).mpr ⟨us, hus, vs, hvs, rfl⟩, ?_⟩
      exact (hg.append us vs _).mpr ⟨us', hus', vs', hvs', rfl⟩

/-- All that is found in a list are the pieces found in its items, in their order. -/
theorem eq_ok_iff (hf : Itemwise f) {xs : List α} {zs : List β} :
    f xs = .ok zs ↔ ∃ pieces, List.Forall₂ (fun x piece => f [x] = .ok piece) xs pieces ∧
      zs = pieces.flatten := by
  induction xs generalizing zs with
  | nil =>
    rw [hf.nil]
    constructor
    · intro h
      cases h
      exact ⟨[], .nil, rfl⟩
    · rintro ⟨pieces, hpieces, rfl⟩
      cases hpieces
      rfl
  | cons x xs ih =>
    rw [← List.singleton_append, hf.append]
    constructor
    · rintro ⟨piece, hpiece, vs, hvs, rfl⟩
      obtain ⟨pieces, hpieces, rfl⟩ := ih.mp hvs
      exact ⟨piece :: pieces, .cons hpiece hpieces, rfl⟩
    · rintro ⟨pieces, hpieces, rfl⟩
      cases hpieces with
      | cons hpiece hpieces =>
        exact ⟨_, hpiece, _, ih.mpr ⟨_, hpieces, rfl⟩, rfl⟩

end Itemwise

end Itemwise

/-! ### Steps -/

namespace Step

variable (s : Step)

/-- What a step without scripts hands on of what it has selected: all of it or, if the step has a
replacement, the replaced texts that are not blank. -/
def handedOn (found : List Primitive) : List Primitive :=
  match s.replace with
  | none => found
  | some r => (found.map fun p => .text (r.apply p.asText)).filter (!·.isEmpty)

/-- The texts that a step without scripts yields of what it has selected, if it is the last one. -/
def lastTexts (found : List Primitive) : List Text :=
  match s.replace with
  | none => found.map Primitive.asText
  | some r => found.map fun p => r.replaceAll p.asText

theorem itemwise_selectAll : Itemwise s.selectAll where
  nil := rfl
  append ps qs zs := by
    induction ps generalizing zs with
    | nil =>
      have hnil : s.selectAll [] = .ok [] := rfl
      simp [hnil]
    | cons p ps ih =>
      simp only [List.cons_append, selectAll_cons, bind_eq_ok_iff, ih, pure, Except.pure,
        Except.ok.injEq]
      constructor
      · rintro ⟨found, hfound, _, ⟨us, hus, vs, hvs, rfl⟩, rfl⟩
        exact ⟨found ++ us, ⟨found, hfound, us, hus, rfl⟩, vs, hvs, List.append_assoc ..⟩
      · rintro ⟨_, ⟨found, hfound, us, hus, rfl⟩, vs, hvs, rfl⟩
        exact ⟨found, hfound, us ++ vs, ⟨us, hus, vs, hvs, rfl⟩, (List.append_assoc ..).symm⟩

theorem itemwise_handedOn :
    Itemwise fun found => (.ok (s.handedOn found) : Except RuleError (List Primitive)) := by
  unfold handedOn
  cases s.replace with
  | none => exact .ofAppend rfl fun _ _ => rfl
  | some r => exact .ofAppend rfl fun _ _ => by simp only [List.map_append, List.filter_append]

theorem itemwise_lastTexts :
    Itemwise fun found => (.ok (s.lastTexts found) : Except RuleError (List Text)) := by
  unfold lastTexts
  cases s.replace with
  | none => exact .ofAppend rfl fun _ _ => List.map_append
  | some r => exact .ofAppend rfl fun _ _ => List.map_append

/-! A step without scripts runs none. -/

section Scriptless

variable {s} (engine : Engine) (hs : s.scripts = [])

include hs

theorem handOn_eq (found : List Primitive) : s.handOn engine found = pure (s.handedOn found) := by
  have hscripts := hasScripts_of_nil hs
  unfold handOn handedOn
  cases hreplace : s.replace with
  | none => simp [hscripts]
  | some r =>
    have hitem : s.handOnItem? engine = fun p =>
        pure ((some (Primitive.text (r.apply p.asText))).filter (!·.isEmpty)) := by
      funext p
      simp [handOnItem?, script?, replaceIn, hscripts, hreplace]
    have hkept : (found.map fun p =>
          (some (Primitive.text (r.apply p.asText))).filter (!·.isEmpty)).filterMap id =
        (found.map fun p => Primitive.text (r.apply p.asText)).filter (!·.isEmpty) := by
      rw [List.filterMap_map, ← List.filterMap_eq_filter, List.filterMap_map]
      rfl
    simp only [hitem, List.mapM_pure, pure_bind, hkept, Option.isSome_some, Bool.or_true, if_true]

theorem scriptTexts_eq (found : List Primitive) :
    Rule.scriptTexts engine s found = pure (found.map Primitive.asText) := by
  simp [Rule.scriptTexts, hasScripts_of_nil hs]

end Scriptless

end Step

namespace Rule

/-- The items that steps without scripts hand on, each to the step after it. -/
def handed : List Step → List Primitive → Except RuleError (List Primitive)
  | [], items => .ok items
  | s :: rest, items => do
    let found ← s.selectAll items
    handed rest (s.handedOn found)

/-- The texts that a step without scripts yields after others, if it is the last one. -/
def textsAfter (before : List Step) (last : Step) (items : List Primitive) :
    Except RuleError (List Text) := do
  let items ← handed before items
  let found ← last.selectAll items
  return last.lastTexts found

theorem handed_append (a b : List Step) (items : List Primitive) :
    handed (a ++ b) items = handed a items >>= handed b := by
  induction a generalizing items with
  | nil => rfl
  | cons s a ih => simp [handed, ih]

theorem itemwise_handed (steps : List Step) : Itemwise (handed steps) := by
  induction steps with
  | nil => exact .ofAppend rfl fun _ _ => rfl
  | cons s rest ih => exact s.itemwise_selectAll.bind (s.itemwise_handedOn.bind ih)

theorem itemwise_textsAfter (before : List Step) (last : Step) :
    Itemwise (textsAfter before last) :=
  (itemwise_handed before).bind (last.itemwise_selectAll.bind last.itemwise_lastTexts)

theorem textsAfter_append (a before : List Step) (last : Step) (items : List Primitive) :
    textsAfter (a ++ before) last items = handed a items >>= textsAfter before last := by
  simp only [textsAfter, handed_append, bind_assoc]
  rfl

/-! ### Rules -/

variable (engine : Engine)

/-- Steps without scripts hand on what they do without any engine. -/
theorem handThrough_eq {steps : List Step} (hsteps : ∀ s ∈ steps, s.scripts = [])
    (items : List Primitive) : handThrough engine steps items = liftM (handed steps items) := by
  induction steps generalizing items with
  | nil => rfl
  | cons s rest ih =>
    obtain ⟨hs, hrest⟩ := List.forall_mem_cons.mp hsteps
    simp [handThrough, handed, s.handOn_eq engine hs, ih hrest]

/-- A rule without scripts yields the texts of its last step, of what the steps before hand on. -/
theorem applyList_eq_textsAfter {before : List Step} {last : Step}
    (hsteps : ∀ s ∈ before ++ [last], s.scripts = []) (input : Primitive) :
    applyList engine ⟨before ++ [last]⟩ input = liftM (textsAfter before last [input]) := by
  obtain ⟨hbefore, hlast⟩ := List.forall_mem_append.mp hsteps
  have hlast' : last.scripts = [] := hlast last List.mem_cons_self
  have hscripts := Step.hasScripts_of_nil hlast'
  have hchosen : last?  ⟨before ++ [last]⟩ = some last := List.getLast?_concat
  simp only [applyList, hchosen, selectThrough_append, handThrough_eq engine hbefore, selectThrough,
    textsAfter, Step.scriptTexts_eq engine hlast']
  cases hreplace : last.replace <;> simp [Step.lastTexts, hreplace, Function.comp_def]

/-- What needs no variables is answered from all variables alike. -/
theorem answer_liftM {α : Type} (e : Except RuleError α) (vs : Variables) :
    ((liftM e : Effect α).run vs).1 = e := by
  cases e <;> rfl

/-- A rule without scripts that is cut in two is its second part applied to each of the items that
its first part hands on: it fails if the first part or one of the applications does, and else yields
all that these yield, in the order of the items. -/
theorem applyList_append {a b : List Step} (hb : b ≠ [])
    (hsteps : ∀ s ∈ a ++ b, s.scripts = []) (input : Primitive) (vs : Variables) :
    let texts (steps : List Step) (p : Primitive) := ((applyList engine ⟨steps⟩ p).run vs).1
    (∀ e, handed a [input] = .error e → texts (a ++ b) input = .error e) ∧
    ∀ items, handed a [input] = .ok items →
      ((∃ found, texts (a ++ b) input = .ok found) ↔ ∀ p ∈ items, ∃ found, texts b p = .ok found) ∧
      (∀ pieces, List.Forall₂ (fun p piece => texts b p = .ok piece) items pieces →
        texts (a ++ b) input = .ok pieces.flatten) ∧
      (items = [] → texts (a ++ b) input = .ok []) := by
  intro texts
  obtain ⟨before, last, rfl⟩ := (List.eq_nil_or_concat' b).resolve_left hb
  have hsecond := (List.forall_mem_append.mp hsteps).2
  have htexts (p : Primitive) : texts (before ++ [last]) p = textsAfter before last [p] := by
    simp only [texts, applyList_eq_textsAfter engine hsecond]
    exact answer_liftM _ vs
  have hwhole : texts (a ++ (before ++ [last])) input =
      handed a [input] >>= textsAfter before last := by
    rw [← List.append_assoc] at hsteps ⊢
    simp only [texts, applyList_eq_textsAfter engine hsteps]
    rw [answer_liftM, textsAfter_append]
  have hgoes := itemwise_textsAfter before last
  refine ⟨fun e he => by rw [hwhole, he]; rfl, fun items hitems => ?_⟩
  have hrest : texts (a ++ (before ++ [last])) input = textsAfter before last items := by
    rw [hwhole, hitems]
    rfl
  simp only [hrest, htexts]
  refine ⟨?_, fun pieces hpieces => hgoes.eq_ok_iff.mpr ⟨pieces, hpieces, rfl⟩, ?_⟩
  · rw [← exists_forall₂_iff]
    constructor
    · rintro ⟨found, hfound⟩
      obtain ⟨pieces, hpieces, -⟩ := hgoes.eq_ok_iff.mp hfound
      exact ⟨pieces, hpieces⟩
    · rintro ⟨pieces, hpieces⟩
      exact ⟨pieces.flatten, hgoes.eq_ok_iff.mpr ⟨pieces, hpieces, rfl⟩⟩
  · rintro rfl
    exact hgoes.nil

/-- The first part finds three words and hands on two of them, as nothing is left of the dash; the
second part finds the characters of each. -/
theorem applyList_append_words :
    let steps (raw : String) := ((compile raw.toList .text).toOption.map Rule.steps).getD []
    let a := steps "[^ ]+##-"
    let b := steps "[a-z0-9]"
    let input := Primitive.text "a1 - b2".toList
    let items := ((handed a [input]).toOption).getD []
    let texts (steps : List Step) (p : Primitive) :=
      ((applyList .silent ⟨steps⟩ p).run .empty).1
    b ≠ [] ∧ (∀ s ∈ a ++ b, s.scripts = []) ∧ handed a [input] = .ok items ∧
      items.map Primitive.asText = [['a', '1'], ['b', '2']] ∧
      texts (a ++ b) input = .ok [['a'], ['1'], ['b'], ['2']] := by
  intro steps a b input items texts
  have hb : b ≠ [] := by decide +kernel
  have hsteps : ∀ s ∈ a ++ b, s.scripts = [] := by decide +kernel
  have hitems : handed a [input] = .ok items := by
    have hok : (handed a [input]).toOption.isSome = true := by decide +kernel
    obtain ⟨found, hfound⟩ := Option.isSome_iff_exists.mp hok
    rw [eq_ok_of_toOption hfound, show items = found by simp [items, hfound]]
  have heach : items.map (texts b) = [[['a'], ['1']], [['b'], ['2']]].map .ok := by decide +kernel
  have hpieces : List.Forall₂ (fun p piece => texts b p = .ok piece) items
      [[['a'], ['1']], [['b'], ['2']]] := by
    rw [← List.forall₂_eq_eq_eq] at heach
    exact List.forall₂_map_right_iff.mp (List.forall₂_map_left_iff.mp heach)
  exact ⟨hb, hsteps, hitems, by decide +kernel,
    ((applyList_append .silent hb hsteps input .empty).2 items hitems).2.1 _ hpieces⟩

end Rule

end Extraction
