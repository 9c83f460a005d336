import Extraction.Text.Nesting

/-!
# Cutting texts whose brackets and quotes are closed

A text whose round brackets and quotes are closed leaves open what was open before it, and a
separator inside brackets is passed over, so that texts put together with separators are cut at just
those.

## Main definitions

* `Nesting.Passes`: reading a text leads from what is open to what is open, past no separator
  outside
* `Nests`: texts with closed quotes and round brackets, and no square ones outside quotes
-/

namespace Extraction.Text

/-- Whether a character opens or closes brackets or a quote. -/
def isNestingMark (c : Char) : Bool := ['\'', '"', '[', '(', ']', ')'].elem c

namespace Nesting

theorem after_of_not_mark {n : Nesting} {c : Char} (hn : n.quote = none)
    (hc : isNestingMark c = false) : n.after c = n := by
  have hne {d : Char} (hd : isNestingMark d = true) : c ≠ d := by
    rintro rfl
    rw [hd] at hc
    cases hc
  unfold after
  rw [hn]
  simp [hne (d := '\'') rfl, hne (d := '"') rfl, hne (d := '[') rfl, hne (d := '(') rfl,
    hne (d := ']') rfl, hne (d := ')') rfl]

/-- Reading the text where `n` is open leads to where `m` is open, and no separator outside is met
on the way. -/
inductive Passes (sep : Char) : Nesting → Text → Nesting → Prop
  | nil {n : Nesting} : Passes sep n [] n
  | cons {n m : Nesting} {c : Char} {t : Text} :
      ¬ (n = .outside ∧ c = sep) → Passes sep (n.after c) t m → Passes sep n (c :: t) m

namespace Passes

variable {sep : Char} {n m k : Nesting} {t u : Text}

theorem append (ht : Passes sep n t m) (hu : Passes sep m u k) : Passes sep n (t ++ u) k := by
  induction ht with
  | nil => exact hu
  | cons hc _ ih => exact .cons hc (ih hu)

/-- Characters without a meaning of their own change nothing. -/
theorem of_not_mark (hn : n.quote = none) (ht : ∀ c ∈ t, isNestingMark c = false)
    (hsep : n = .outside → sep ∉ t) : Passes sep n t n := by
  induction t with
  | nil => exact .nil
  | cons c t ih =>
    rw [List.forall_mem_cons] at ht
    have hafter := after_of_not_mark hn ht.1
    refine .cons (fun h => hsep h.1 (h.2 ▸ List.mem_cons_self)) ?_
    rw [hafter]
    exact ih ht.2 fun h hmem => hsep h (List.mem_cons_of_mem c hmem)

/-- Nothing but the same quote closes a quote. -/
theorem of_quote {q : Char} {d : Nat} (ht : q ∉ t) : Passes sep ⟨d, some q⟩ t ⟨d, some q⟩ := by
  induction t with
  | nil => exact .nil
  | cons c t ih =>
    rw [List.mem_cons, not_or] at ht
    have hafter : after ⟨d, some q⟩ c = ⟨d, some q⟩ := if_neg (Ne.symm ht.1)
    refine .cons (fun h => by cases h.1) ?_
    rw [hafter]
    exact ih ht.2

/-- A text between quotes leaves open what was open before. -/
theorem quotation {q : Char} {d : Nat} (hq : q = '\'' ∨ q = '"') (hsep : q ≠ sep) (ht : q ∉ t) :
    Passes sep ⟨d, none⟩ (q :: (t ++ [q])) ⟨d, none⟩ := by
  have hopen : after ⟨d, none⟩ q = ⟨d, some q⟩ := if_pos hq
  have hclose : after ⟨d, some q⟩ q = ⟨d, none⟩ := if_pos rfl
  refine .cons (fun h => hsep h.2) ?_
  rw [hopen]
  refine (of_quote ht).append (.cons (fun h => by cases h.1) ?_)
  rw [hclose]
  exact .nil

/-- A text between brackets leaves open what was open before. -/
theorem bracketed {o c : Char} {d : Nat} (ho : o = '[' ∨ o = '(') (hc : c = ']' ∨ c = ')')
    (hsep : o ≠ sep) (ht : Passes sep ⟨d + 1, none⟩ t ⟨d + 1, none⟩) :
    Passes sep ⟨d, none⟩ (o :: (t ++ [c])) ⟨d, none⟩ := by
  have hopen : after ⟨d, none⟩ o = ⟨d + 1, none⟩ := by rcases ho with rfl | rfl <;> rfl
  have hclose : after ⟨d + 1, none⟩ c = ⟨d, none⟩ := by rcases hc with rfl | rfl <;> rfl
  refine .cons (fun h => hsep h.2) ?_
  rw [hopen]
  refine ht.append (.cons (fun h => by cases h.1) ?_)
  rw [hclose]
  exact .nil

/-- What is cut off at the first separator begins with all that is passed. -/
theorem cutOutside_append (ht : Passes sep n t m) (u : Text) :
    cutOutside sep n (t ++ u) = (t ++ (cutOutside sep m u).1, (cutOutside sep m u).2) := by
  induction ht with
  | nil => rfl
  | cons hc _ ih =>
    rw [List.cons_append, cutOutside, if_neg hc, ih]
    rfl

theorem cutOutside (ht : Passes sep n t m) : Text.cutOutside sep n t = (t, []) := by
  have hcut := ht.cutOutside_append []
  rw [List.append_nil] at hcut
  rw [hcut]
  exact Prod.ext (List.append_nil t) rfl

theorem cutOutside_separator (ht : Passes sep n t .outside) (u : Text) :
    Text.cutOutside sep n (t ++ sep :: u) = (t, sep :: u) := by
  rw [ht.cutOutside_append, Text.cutOutside, if_pos ⟨rfl, rfl⟩]
  exact Prod.ext (List.append_nil t) rfl

theorem splitOutside (ht : Passes sep .outside t m) : Text.splitOutside sep t = [t] := by
  rw [Text.splitOutside]
  split
  · next hcut =>
    rw [ht.cutOutside, Prod.mk.injEq] at hcut
    rw [hcut.1]
  · next hcut =>
    rw [ht.cutOutside, Prod.mk.injEq] at hcut
    cases hcut.2

theorem splitOutside_separator (ht : Passes sep .outside t .outside) (u : Text) :
    Text.splitOutside sep (t ++ sep :: u) = t :: Text.splitOutside sep u := by
  rw [Text.splitOutside]
  split
  · next hcut =>
    rw [ht.cutOutside_separator, Prod.mk.injEq] at hcut
    cases hcut.2
  · next hcut =>
    rw [ht.cutOutside_separator, Prod.mk.injEq, List.cons.injEq] at hcut
    obtain ⟨rfl, rfl, rfl⟩ := hcut
    rfl

end Passes

end Nesting

theorem cutLastOutside?_of_notMem {sep : Char} {s : Text} (h : sep ∉ s) (n : Nesting) :
    cutLastOutside? sep n s = none := by
  induction s generalizing n with
  | nil => rfl
  | cons c s ih =>
    rw [List.mem_cons, not_or] at h
    rw [cutLastOutside?, ih h.2, if_neg fun hc => h.1 hc.2.symm]

/-! ### Texts that stand in brackets -/

/-- Texts whose quotes and round brackets are closed, without square brackets outside quotes. -/
inductive Nests : Text → Prop
  | nil : Nests []
  | cons {c : Char} {t : Text} : isNestingMark c = false → Nests t → Nests (c :: t)
  | quotation {q : Char} {v t : Text} :
      q = '\'' ∨ q = '"' → q ∉ v → Nests t → Nests (q :: (v ++ q :: t))
  | bracketed {u t : Text} : Nests u → Nests t → Nests ('(' :: (u ++ ')' :: t))

namespace Nests

variable {t u : Text}

theorem of_not_mark (ht : ∀ c ∈ t, isNestingMark c = false) (hu : Nests u) : Nests (t ++ u) := by
  induction t with
  | nil => exact hu
  | cons c t ih =>
    rw [List.forall_mem_cons] at ht
    exact .cons ht.1 (ih ht.2)

/-- Inside brackets such a text passes every separator. -/
theorem passes (ht : Nests t) {sep : Char} (hsep : isNestingMark sep = false) (d : Nat) :
    Nesting.Passes sep ⟨d + 1, none⟩ t ⟨d + 1, none⟩ := by
  have hne {c : Char} (hc : isNestingMark c = true) : c ≠ sep := by
    rintro rfl
    rw [hc] at hsep
    cases hsep
  induction ht generalizing d with
  | nil => exact .nil
  | @cons c t hc _ ih =>
    have hone : ∀ e ∈ [c], isNestingMark e = false := fun e he => List.mem_singleton.1 he ▸ hc
    exact Nesting.Passes.append (t := [c])
      (.of_not_mark rfl hone fun h => by cases h) (ih d)
  | @quotation q v t hq hv _ ih =>
    have hmark : isNestingMark q = true := by rcases hq with rfl | rfl <;> rfl
    have hrun := (Nesting.Passes.quotation hq (hne hmark) hv).append (ih d)
    rwa [List.cons_append, List.append_assoc, List.singleton_append] at hrun
  | @bracketed u t _ _ ihinner ih =>
    have hrun := (Nesting.Passes.bracketed (.inr rfl) (.inr rfl) (hne rfl) (ihinner (d + 1))).append
      (ih d)
    rwa [List.cons_append, List.append_assoc, List.singleton_append] at hrun

end Nests

end Extraction.Text
