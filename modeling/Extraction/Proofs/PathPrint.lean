import Extraction.Proofs.LetterTables
import Extraction.Proofs.NestedText
import Extraction.XPath.Parser

/-!
# Reading location paths that were written

The texts that write a union of location paths, as a grammar beside the reader: a name is written as
it is, a string between quotes that do not occur in it. Reading such a text gives the union back,
whatever characters its strings hold.

## Main definitions

* `IsName`: the names that can be written
* `Predicate.Body`, `PredicatesWritten`, `Test.Written`, `Step.Written`, `StepsWritten`,
  `Path.Written`, `XPath.Written`: the texts that write each part of a union of paths
-/

namespace Extraction.XPath

open Text

/-! ### The grammar -/

/-- The names of elements and attributes. -/
def IsName (s : Text) : Prop := s ≠ [] ∧ ∀ c ∈ s, isNameChar c = true

instance (s : Text) : Decidable (IsName s) := inferInstanceAs (Decidable (_ ∧ _))

/-- A string is written between quotes of one kind that do not occur in it. -/
inductive QuotedAs (v : Text) : Text → Prop
  | mk {q : Char} : q = '\'' ∨ q = '"' → q ∉ v → QuotedAs v (q :: (v ++ [q]))

/-- What a predicate with a string is about, the text or an attribute: the predicate that it makes
of a string, and how it is written. -/
inductive Operand (onText : Text → Predicate) (onAttribute : Text → Text → Predicate) :
    (Text → Predicate) → Text → Prop
  | text : Operand onText onAttribute onText "text()".toList
  | attr {name : Text} :
      IsName name → Operand onText onAttribute (onAttribute name) ('@' :: name)

/-- The largest position that can be written. -/
def maxPosition : Nat := 18446744073709551615

/-- What stands in the brackets of a predicate. -/
inductive Predicate.Body : Predicate → Text → Prop
  | index {n : Nat} : 1 ≤ n → n ≤ maxPosition → Body (.index n) (ofNat n)
  | last : Body .last "last()".toList
  | hasAttribute {name : Text} : IsName name → Body (.hasAttribute name) ('@' :: name)
  | equals {make : Text → Predicate} {operand v w : Text} :
      Operand .textIs .attributeIs make operand → QuotedAs v w →
      Body (make v) (operand ++ '=' :: w)
  | contains {make : Text → Predicate} {operand v w : Text} :
      Operand .textContains .attributeContains make operand → QuotedAs v w →
      Body (make v) ("contains(".toList ++ (operand ++ ',' :: w) ++ [')'])

/-- Predicates are written in brackets, one after the other. -/
inductive PredicatesWritten : List Predicate → Text → Prop
  | nil : PredicatesWritten [] []
  | cons {p : Predicate} {rest : List Predicate} {body t : Text} :
      p.Body body → PredicatesWritten rest t →
      PredicatesWritten (p :: rest) ('[' :: (body ++ ']' :: t))

/-- The name of an element has no capitals of ASCII, and is none of the marks that stand for a node
itself and for its parent. -/
inductive Test.Written : Test → Text → Prop
  | label {name : Text} :
      IsName name → (∀ c ∈ name, c.isUpper = false) → name ≠ ['.'] → name ≠ ['.', '.'] →
      Written (.label name) name
  | anyElement : Written .anyElement ['*']
  | text : Written .text "text()".toList
  | attr {name : Text} : IsName name → Written (.attribute name) ('@' :: name)
  | anyAttribute : Written .anyAttribute ['@', '*']
  | self : Written .self ['.']
  | parent : Written .parent ['.', '.']

/-- A step, without the slashes before it. -/
inductive Step.Written : Step → Text → Prop
  | mk {axis : Axis} {test : Test} {predicates : List Predicate} {t u : Text} :
      test.Written t → PredicatesWritten predicates u → Written ⟨axis, test, predicates⟩ (t ++ u)

/-- The slashes that name an axis. -/
def Axis.slashes : Axis → Text
  | child => ['/']
  | descendant => ['/', '/']

/-- A first step and the steps after it, without the slashes before the first one. -/
inductive StepsWritten : Step → List Step → Text → Prop
  | single {step : Step} {t : Text} : step.Written t → StepsWritten step [] t
  | cons {step next : Step} {rest : List Step} {t u : Text} :
      step.Written t → StepsWritten next rest u →
      StepsWritten step (next :: rest) (t ++ (next.axis.slashes ++ u))

/-- A path that is absolute begins with the slashes of its first step; any other one begins on the
axis of children. -/
inductive Path.Written : Path → Text → Prop
  | absolute {first : Step} {rest : List Step} {t : Text} :
      StepsWritten first rest t → Written ⟨true, first :: rest⟩ (first.axis.slashes ++ t)
  | relative {first : Step} {rest : List Step} {t : Text} :
      first.axis = .child → StepsWritten first rest t → Written ⟨false, first :: rest⟩ t

/-- Paths are written with bars between them. -/
inductive Written : XPath → Text → Prop
  | single {path : Path} {t : Text} : path.Written t → Written ⟨[path]⟩ t
  | cons {path : Path} {rest : List Path} {t u : Text} :
      path.Written t → Written ⟨rest⟩ u → Written ⟨path :: rest⟩ (t ++ '|' :: u)

/-! ### Names -/

theorem ne_of_isNameChar {c d : Char} (hc : isNameChar c = true) (hd : isNameChar d = false) :
    c ≠ d := by
  rintro rfl
  rw [hc] at hd
  cases hd

theorem isBlank_of_isNameChar {c : Char} (hc : isNameChar c = true) : isBlank c = false := by
  rw [← Bool.not_eq_true]
  intro hblank
  rw [isNameChar, isAlphanumeric_of_isBlank hblank, Bool.false_or, List.elem_iff] at hc
  simp only [List.mem_cons, List.not_mem_nil, or_false] at hc
  rcases hc with rfl | rfl | rfl | rfl <;> cases hblank

theorem isNestingMark_of_isNameChar {c : Char} (hc : isNameChar c = true) :
    isNestingMark c = false := by
  rw [← Bool.not_eq_true, isNestingMark, List.elem_iff]
  intro hmark
  have hall : ∀ d ∈ ['\'', '"', '[', '(', ']', ')'], isNameChar d = false := by decide
  exact ne_of_isNameChar hc (hall c hmark) rfl

theorem IsName.not_mem {name : Text} (h : IsName name) {d : Char} (hd : isNameChar d = false) :
    d ∉ name := fun hmem => ne_of_isNameChar (h.2 d hmem) hd rfl

theorem IsName.trimmed {name : Text} (h : IsName name) : Trimmed name :=
  .of_forall h.1 fun c hc => isBlank_of_isNameChar (h.2 c hc)

theorem readName_of_isName {name : Text} (h : IsName name) : readName name = .ok name := by
  have hvalid : (!name.isEmpty && name.all isNameChar) = true := by
    rw [Bool.and_eq_true, Bool.not_eq_true', List.isEmpty_eq_false_iff, List.all_eq_true]
    exact h
  unfold readName
  rw [h.trimmed.2]
  exact if_pos hvalid

/-- The digits of a number could be a name. -/
theorem isName_ofNat (n : Nat) : IsName (ofNat n) := by
  refine ⟨Nat.toDigits_ne_nil, fun c hc => ?_⟩
  rw [isNameChar, isAlphanumeric, isNumeric, isDigit_of_mem_ofNat hc, Bool.true_or, Bool.or_true,
    Bool.true_or]

theorem nests_name {name : Text} (h : IsName name) {t : Text} (ht : Nests t) :
    Nests (name ++ t) :=
  .of_not_mark (fun c hc => isNestingMark_of_isNameChar (h.2 c hc)) ht

/-! ### Predicates -/

section Operand

variable {onText : Text → Predicate} {onAttribute : Text → Text → Predicate}
  {make : Text → Predicate} {operand : Text}

theorem Operand.not_mem (h : Operand onText onAttribute make operand) {d : Char}
    (hd : isNameChar d = false) (hmark : d ∉ "@text()".toList) : d ∉ operand := by
  cases h with
  | text => exact fun hmem => hmark (List.mem_cons_of_mem _ hmem)
  | attr hname =>
    rw [List.mem_cons, not_or]
    exact ⟨fun heq => hmark (heq ▸ List.mem_cons_self), hname.not_mem hd⟩

theorem Operand.trimmed (h : Operand onText onAttribute make operand) : Trimmed operand := by
  cases h with
  | text => decide
  | attr hname => exact Trimmed.append (s := ['@']) (by decide) [] hname.trimmed

theorem Operand.nests (h : Operand onText onAttribute make operand) {t : Text} (ht : Nests t) :
    Nests (operand ++ t) := by
  cases h with
  | text => exact .of_not_mark (t := "text".toList) (by decide) (.bracketed .nil ht)
  | attr hname => exact .cons rfl (nests_name hname ht)

theorem QuotedAs.trimmed {v w : Text} (h : QuotedAs v w) : Trimmed w := by
  obtain @⟨q, hq, -⟩ := h
  have hmark : Trimmed [q] := by rcases hq with rfl | rfl <;> decide
  exact hmark.append v hmark

theorem QuotedAs.nests {v w t : Text} (h : QuotedAs v w) (ht : Nests t) : Nests (w ++ t) := by
  obtain ⟨hq, hv⟩ := h
  rw [List.cons_append, List.append_assoc, List.singleton_append]
  exact .quotation hq hv ht

theorem unquote?_of_quotedAs {v w : Text} (h : QuotedAs v w) : unquote? w = some v := by
  have htrim := h.trimmed.2
  obtain ⟨hq, -⟩ := h
  unfold unquote?
  rw [htrim]
  exact (if_pos hq).trans (dropSuffix?_append _ _)

theorem readOperand_of_written (h : Operand onText onAttribute make operand) {v w : Text}
    (hw : QuotedAs v w) (body : Text) :
    readOperand body operand w onText onAttribute = .ok (make v) := by
  unfold readOperand
  simp only [unquote?_of_quotedAs hw, h.trimmed.2]
  cases h with
  | text => rfl
  | @attr name hname =>
    have hne : '@' :: name ≠ "text()".toList := fun heq => by cases heq
    rw [if_neg hne, attributeName?]
    simp only [readName_of_isName hname]
    rfl

end Operand

/-- What begins with no digit and no sign is no number. -/
theorem unsigned?_eq_none {max : Nat} {c : Char} {t : Text} (hsign : c ≠ '+')
    (hdigit : digitValue? 10 c = none) : unsigned? 10 max (c :: t) = none := by
  unfold unsigned?
  split
  · next heq => exact (hsign (List.cons.inj heq).1).elim
  · dsimp only
    rw [digits?_eq_none hdigit]
    rfl

theorem isPrefixOf?_cons_of_ne {c d : Char} (h : d ≠ c) (p t : Text) :
    (c :: p).isPrefixOf? (d :: t) = none :=
  isPrefixOf?_eq_none_iff.2 (not_prefix_of_head_ne h)

/-- A comparison that begins with an operand is neither a position nor the last one nor a part of a
string. -/
theorem readPredicate_of_equals {c : Char} {t target value : Text} (hc : c = '@' ∨ c = 't')
    (hcut : splitOnce? ['='] (c :: t) = some (target, value)) :
    readPredicate (c :: t) = readOperand (c :: t) target value .textIs .attributeIs := by
  have hhead : c ≠ '+' ∧ digitValue? 10 c = none ∧ c ≠ 'l' ∧ c ≠ 'c' := by
    rcases hc with rfl | rfl <;> decide
  have hlast : c :: t ≠ "last()".toList := fun heq => hhead.2.2.1 (List.cons.inj heq).1
  have hcontains : ("contains(".toList.isPrefixOf? (c :: t)).bind (dropSuffix? [')']) = none := by
    rw [show "contains(".toList = 'c' :: "ontains(".toList from rfl,
      isPrefixOf?_cons_of_ne hhead.2.2.2]
    rfl
  unfold readPredicate
  simp only [unsigned?_eq_none hhead.1 hhead.2.1, if_neg hlast, hcontains, hcut]

theorem readPredicate_of_body {p : Predicate} {body : Text} (h : p.Body body) :
    readPredicate body = .ok p := by
  cases h with
  | @index n hpos hmax =>
    have hnumber : unsigned? 10 18446744073709551615 (ofNat n) = some n := unsigned?_ofNat hmax
    unfold readPredicate
    rw [hnumber]
    obtain ⟨n, rfl⟩ := Nat.exists_eq_add_of_le' hpos
    rfl
  | last => rfl
  | @hasAttribute name hname =>
    have hcut : splitOnce? ['='] ('@' :: name) = none :=
      splitOnce?_eq_none_of_notMem (fun hmem =>
        (List.mem_cons.1 hmem).elim (by decide) (hname.not_mem (by decide))) []
    have hnumber : unsigned? 10 18446744073709551615 ('@' :: name) = none :=
      unsigned?_eq_none (by decide) (by decide)
    have hlast : '@' :: name ≠ "last()".toList := fun heq => by cases heq
    have hcontains :
        ("contains(".toList.isPrefixOf? ('@' :: name)).bind (dropSuffix? [')']) = none := rfl
    unfold readPredicate
    simp only [hnumber, if_neg hlast, hcontains, hcut, attributeName?, readName_of_isName hname]
    rfl
  | @equals make operand v w hoperand hw =>
    have hcut : splitOnce? ['='] (operand ++ '=' :: w) = some (operand, w) :=
      splitOnce?_of_notMem (hoperand.not_mem (by decide) (by decide)) [] w
    have hhead : ∃ c t, operand = c :: t ∧ (c = '@' ∨ c = 't') := by
      cases hoperand with
      | text => exact ⟨_, _, rfl, .inr rfl⟩
      | attr => exact ⟨_, _, rfl, .inl rfl⟩
    obtain ⟨c, t, hct, hc⟩ := hhead
    rw [hct] at hcut ⊢
    rw [List.cons_append] at hcut ⊢
    rw [readPredicate_of_equals hc hcut, ← hct]
    exact readOperand_of_written hoperand hw _
  | @contains make operand v w hoperand hw =>
    have hcut : splitOnce? [','] (operand ++ ',' :: w) = some (operand, w) :=
      splitOnce?_of_notMem (hoperand.not_mem (by decide) (by decide)) [] w
    have hlast : "contains(".toList ++ (operand ++ ',' :: w) ++ [')'] ≠ "last()".toList :=
      fun heq => by cases heq
    have harguments : ("contains(".toList.isPrefixOf?
        ("contains(".toList ++ (operand ++ ',' :: w) ++ [')'])).bind (dropSuffix? [')']) =
          some (operand ++ ',' :: w) := by
      rw [List.append_assoc, isPrefixOf?_append, Option.bind_some, dropSuffix?_append]
    have hnumber : unsigned? 10 18446744073709551615
        ("contains(".toList ++ (operand ++ ',' :: w) ++ [')']) = none :=
      unsigned?_eq_none (by decide) (by decide)
    unfold readPredicate
    simp only [hnumber, if_neg hlast, harguments, hcut]
    exact readOperand_of_written hoperand hw _

/-! ### Where a predicate ends -/

/-- The body of a predicate goes on with all that nests. -/
theorem predicateBody?_append {t : Text} (ht : Nests t) (u : Text) :
    predicateBody? none (t ++ u) =
      (predicateBody? none u).map fun (body, after) => (t ++ body, after) := by
  induction ht generalizing u with
  | nil => simp
  | @cons c t hc _ ih =>
    have hne {d : Char} (hd : isNestingMark d = true) : c ≠ d := by
      rintro rfl
      rw [hd] at hc
      cases hc
    rw [List.cons_append, predicateBody?]
    simp [hne (d := '\'') rfl, hne (d := '"') rfl, hne (d := ']') rfl, ih, Function.comp_def]
  | @quotation q v t hq hv _ ih =>
    have hrun : ∀ w : Text, q ∉ w → predicateBody? (some q) (w ++ q :: (t ++ u)) =
        (predicateBody? none (t ++ u)).map fun (body, after) => (w ++ q :: body, after) := by
      intro w hw
      induction w with
      | nil => simp [predicateBody?]
      | cons c w ihw =>
        rw [List.mem_cons, not_or] at hw
        rw [List.cons_append, predicateBody?]
        simp [Ne.symm hw.1, ihw hw.2, Function.comp_def]
    rw [List.cons_append, List.append_assoc, List.cons_append, predicateBody?]
    simp [hq, hrun v hv, ih, Function.comp_def]
  | @bracketed v t _ _ ihinner ih =>
    rw [List.cons_append, List.append_assoc, List.cons_append, predicateBody?]
    simp [ihinner, ih, predicateBody?, Function.comp_def]

theorem Predicate.Body.nests {p : Predicate} {body : Text} (h : p.Body body) : Nests body := by
  have hnil {w : Text} (hw : Nests (w ++ [])) : Nests w := by rwa [List.append_nil] at hw
  cases h with
  | index => exact hnil (nests_name (isName_ofNat _) .nil)
  | last => exact .of_not_mark (t := "last".toList) (by decide) (.bracketed .nil .nil)
  | hasAttribute hname => exact .cons rfl (hnil (nests_name hname .nil))
  | equals hoperand hw => exact hoperand.nests (.cons rfl (hnil (hw.nests .nil)))
  | @contains make operand v w hoperand hw =>
    rw [List.append_assoc]
    exact .of_not_mark (t := "contains".toList) (by decide)
      (.bracketed (hoperand.nests (.cons rfl (hnil (hw.nests .nil)))) .nil)

theorem Predicate.Body.trimmed {p : Predicate} {body : Text} (h : p.Body body) : Trimmed body := by
  cases h with
  | index => exact (isName_ofNat _).trimmed
  | last => decide
  | hasAttribute hname => exact Trimmed.append (s := ['@']) (by decide) [] hname.trimmed
  | equals hoperand hw => exact hoperand.trimmed.append ['='] hw.trimmed
  | contains =>
    rw [List.append_assoc]
    exact Trimmed.append (by decide) _ (by decide)

/-- Predicates that were written are read to the end of the text. -/
theorem readPredicates_of_written {predicates : List Predicate} {t : Text}
    (h : PredicatesWritten predicates t) : readPredicates t = .ok predicates := by
  induction h with
  | nil => rw [readPredicates]
  | @cons p rest body t hbody hrest ih =>
    have hcut : predicateBody? none (body ++ ']' :: t) = some (body, t) := by
      rw [predicateBody?_append hbody.nests]
      simp [predicateBody?]
    have hstart : trimStart t = t := by
      cases hrest with
      | nil => rfl
      | cons => rfl
    rw [readPredicates]
    split
    · next hnone => rw [hcut] at hnone; cases hnone
    · next hsome =>
      rw [hcut] at hsome
      cases hsome
      rw [hbody.trimmed.2, readPredicate_of_body hbody, hstart, ih]
      rfl

/-! ### Steps -/

theorem readTest_of_written {test : Test} {t : Text} (h : test.Written t) :
    readTest t = .ok test := by
  cases h with
  | label hname hlower hself hparent =>
    have hne {u : Text} (hu : u.all isNameChar = false) : t ≠ u := by
      rintro rfl
      rw [List.all_eq_true.2 hname.2] at hu
      cases hu
    have hat : attributeName? t = none := by
      unfold attributeName?
      split
      · next rest => exact (hname.not_mem (d := '@') (by decide) List.mem_cons_self).elim
      · rfl
    unfold readTest
    rw [if_neg (by simpa using hname.1), if_neg (hne (by decide)), if_neg hself, if_neg hparent,
      if_neg (hne (by decide)), if_neg (hne (by decide)), hat, readName_of_isName hname]
    exact congrArg (fun name => Except.ok (Test.label name)) (lowerAscii_eq_self hlower)
  | @attr name hname =>
    have hstar : '@' :: name ≠ ['@', '*'] := by
      rintro ⟨⟩
      exact absurd (hname.2 '*' List.mem_cons_self) (by decide)
    have hself : '@' :: name ≠ ['.'] := fun heq => by cases heq
    have hparent : '@' :: name ≠ ['.', '.'] := fun heq => by cases heq
    have hany : '@' :: name ≠ ['*'] := fun heq => by cases heq
    have htext : '@' :: name ≠ "text()".toList := fun heq => by cases heq
    unfold readTest
    rw [if_neg (by simp), if_neg hany, if_neg hself, if_neg hparent, if_neg htext, if_neg hstar,
      attributeName?]
    simp only [readName_of_isName hname]
    rfl
  | anyElement | text | anyAttribute | self | parent => rfl

theorem Test.Written.trimmed {test : Test} {t : Text} (h : test.Written t) : Trimmed t := by
  cases h with
  | label hname => exact hname.trimmed
  | attr hname => exact Trimmed.append (s := ['@']) (by decide) [] hname.trimmed
  | anyElement | text | anyAttribute | self | parent => decide

/-- No bracket of a predicate stands in a test. -/
theorem Test.Written.not_mem {test : Test} {t : Text} (h : test.Written t) : '[' ∉ t := by
  cases h with
  | label hname => exact hname.not_mem (by decide)
  | attr hname =>
    exact fun hmem => (List.mem_cons.1 hmem).elim (by decide) (hname.not_mem (by decide))
  | anyElement | text | anyAttribute | self | parent => decide

theorem PredicatesWritten.eq_nil_or_cons {predicates : List Predicate} {t : Text}
    (h : PredicatesWritten predicates t) : t = [] ∨ ∃ u, t = '[' :: u := by
  cases h with
  | nil => exact .inl rfl
  | cons => exact .inr ⟨_, rfl⟩

theorem readStep_of_written {step : Step} {t : Text} (h : step.Written t) :
    readStep step.axis t = .ok step := by
  obtain @⟨axis, test, predicates, t, u, ht, hu⟩ := h
  have hmem : ∀ c ∈ t, (c != '[') = true := fun c hc => by
    rw [bne_iff_ne]
    rintro rfl
    exact ht.not_mem hc
  have hhead : (t ++ u).takeWhile (· != '[') = t := by
    rw [List.takeWhile_append_of_pos hmem]
    rcases hu.eq_nil_or_cons with rfl | ⟨u, rfl⟩ <;> simp
  have hrest : (t ++ u).dropWhile (· != '[') = u := by
    rw [List.dropWhile_append_of_pos hmem]
    rcases hu.eq_nil_or_cons with rfl | ⟨u, rfl⟩ <;> simp
  unfold readStep
  simp only [hhead, hrest, ht.trimmed.2, readTest_of_written ht, readPredicates_of_written hu]
  rfl

theorem PredicatesWritten.eq_nil_or_concat {predicates : List Predicate} {t : Text}
    (h : PredicatesWritten predicates t) : t = [] ∨ ∃ u, t = u ++ [']'] := by
  induction h with
  | nil => exact .inl rfl
  | @cons p rest body t _ _ ih =>
    rcases ih with rfl | ⟨u, rfl⟩
    · exact .inr ⟨'[' :: body, rfl⟩
    · exact .inr ⟨'[' :: (body ++ ']' :: u), by simp⟩

theorem Step.Written.trimmed {step : Step} {t : Text} (h : step.Written t) : Trimmed t := by
  obtain @⟨axis, test, predicates, t, u, ht, hu⟩ := h
  rcases hu.eq_nil_or_concat with rfl | ⟨u, rfl⟩
  · rw [List.append_nil]
    exact ht.trimmed
  · exact ht.trimmed.append u (by decide)

/-! ### Separators -/

/-- Slashes and bars stand between what a path is made of. -/
def IsSeparator (c : Char) : Prop := c = '/' ∨ c = '|'

theorem IsSeparator.isNestingMark {c : Char} (h : IsSeparator c) : isNestingMark c = false := by
  rcases h with rfl | rfl <;> rfl

theorem IsSeparator.isNameChar {c : Char} (h : IsSeparator c) : isNameChar c = false := by
  rcases h with rfl | rfl <;> decide

section Separator

variable {sep : Char} (hsep : IsSeparator sep)

include hsep

theorem passes_name {name : Text} (h : IsName name) :
    Nesting.Passes sep .outside name .outside :=
  .of_not_mark rfl (fun c hc => isNestingMark_of_isNameChar (h.2 c hc))
    fun _ => h.not_mem hsep.isNameChar

/-- The marks of tests, one by one. -/
theorem passes_of_forall {t : Text} (h : ∀ c ∈ t, isNestingMark c = false ∧ c ≠ '/' ∧ c ≠ '|') :
    Nesting.Passes sep .outside t .outside := by
  refine .of_not_mark rfl (fun c hc => (h c hc).1) fun _ hmem => ?_
  rcases hsep with rfl | rfl
  · exact (h _ hmem).2.1 rfl
  · exact (h _ hmem).2.2 rfl

theorem Test.Written.passes {test : Test} {t : Text} (h : test.Written t) :
    Nesting.Passes sep .outside t .outside := by
  cases h with
  | label hname => exact passes_name hsep hname
  | attr hname =>
    exact (passes_of_forall hsep (t := ['@']) (by decide)).append (passes_name hsep hname)
  | text =>
    refine (passes_of_forall hsep (t := "text".toList) (by decide)).append ?_
    refine .bracketed (t := []) (.inr rfl) (.inr rfl) ?_ .nil
    rcases hsep with rfl | rfl <;> decide
  | anyElement | anyAttribute | self | parent => exact passes_of_forall hsep (by decide)

theorem PredicatesWritten.passes {predicates : List Predicate} {t : Text}
    (h : PredicatesWritten predicates t) : Nesting.Passes sep .outside t .outside := by
  induction h with
  | nil => exact .nil
  | @cons p rest body t hbody _ ih =>
    have hne : '[' ≠ sep := by rcases hsep with rfl | rfl <;> decide
    have hpass := (Nesting.Passes.bracketed (.inl rfl) (.inl rfl) hne
      (hbody.nests.passes hsep.isNestingMark 0)).append ih
    rwa [List.cons_append, List.append_assoc, List.singleton_append] at hpass

/-- A step has no separator outside the brackets of its predicates. -/
theorem Step.Written.passes {step : Step} {t : Text} (h : step.Written t) :
    Nesting.Passes sep .outside t .outside := by
  obtain ⟨ht, hu⟩ := h
  exact (ht.passes hsep).append (hu.passes hsep)

end Separator

/-! ### Paths -/

theorem head?_ne_of_passes {sep : Char} {t : Text} {m : Nesting}
    (h : Nesting.Passes sep .outside t m) : t.head? ≠ some sep := by
  cases h with
  | nil => exact nofun
  | cons hc _ => exact fun heq => hc ⟨rfl, Option.some.inj heq⟩

theorem readAxis_slashes (axis : Axis) {t : Text} (ht : t.head? ≠ some '/') :
    readAxis (axis.slashes ++ t) = (axis, t) := by
  cases axis with
  | descendant => rfl
  | child =>
    cases t with
    | nil => rfl
    | cons c t =>
      have hc : c ≠ '/' := fun heq => ht (congrArg some heq)
      change readAxis ('/' :: c :: t) = _
      unfold readAxis
      split
      · next heq => exact (hc (List.cons.inj (List.cons.inj heq).2).1).elim
      · next heq => rw [(List.cons.inj heq).2]
      · next hne => exact (hne _ rfl).elim

theorem readAxis_none {t : Text} (ht : t.head? ≠ some '/') : readAxis t = (.child, t) := by
  unfold readAxis
  split
  · exact (ht rfl).elim
  · exact (ht rfl).elim
  · rfl

theorem StepsWritten.trimmed {first : Step} {rest : List Step} {t : Text}
    (h : StepsWritten first rest t) : Trimmed t := by
  induction h with
  | single ht => exact ht.trimmed
  | cons ht _ ih => exact ht.trimmed.append _ ih

theorem StepsWritten.head?_ne {first : Step} {rest : List Step} {t : Text}
    (h : StepsWritten first rest t) : t.head? ≠ some '/' := by
  cases h with
  | single ht => exact head?_ne_of_passes (ht.passes (.inl rfl))
  | cons ht _ =>
    rw [List.head?_append_of_ne_nil _ ht.trimmed.1]
    exact head?_ne_of_passes (ht.passes (.inl rfl))

theorem Axis.exists_slashes (axis : Axis) (t : Text) :
    ∃ u, axis.slashes ++ t = '/' :: u := by
  cases axis <;> exact ⟨_, rfl⟩

theorem isBlankText_of_trimmed {t : Text} (h : Trimmed t) : isBlankText t = false := by
  rw [← Bool.not_eq_true, isBlankText_iff, ← trim_eq_nil_iff, h.2]
  exact h.1

theorem readSteps_of_written {first : Step} {rest : List Step} {t : Text}
    (h : StepsWritten first rest t) : readSteps first.axis t = .ok (first :: rest) := by
  induction h with
  | @single step t ht =>
    have hcut := (ht.passes (.inl rfl) : Nesting.Passes '/' _ _ _).cutOutside
    rw [readSteps]
    split
    · rw [hcut, ht.trimmed.2, readStep_of_written ht]
      rfl
    · next hcons => rw [hcut] at hcons; cases hcons
  | @cons step next rest t u ht hu ih =>
    obtain ⟨v, hv⟩ := next.axis.exists_slashes u
    have hcut := (ht.passes (.inl rfl) : Nesting.Passes '/' _ _ _).cutOutside_separator v
    have haxis : readAxis ('/' :: v) = (next.axis, u) := by
      rw [← hv]
      exact readAxis_slashes next.axis hu.head?_ne
    rw [hv, readSteps]
    split
    · next hnil => rw [hcut] at hnil; cases hnil
    · next hcons =>
      rw [hcut] at hcons
      cases hcons
      rw [hcut, ht.trimmed.2, readStep_of_written ht, haxis]
      simp only [isBlankText_of_trimmed hu.trimmed, ih]
      rfl

theorem StepsWritten.passes {first : Step} {rest : List Step} {t : Text}
    (h : StepsWritten first rest t) : Nesting.Passes '|' .outside t .outside := by
  induction h with
  | single ht => exact ht.passes (.inr rfl)
  | @cons step next rest t u ht _ ih =>
    refine (ht.passes (.inr rfl)).append (Nesting.Passes.append ?_ ih)
    cases next.axis <;> exact .of_not_mark rfl (by decide) fun _ => by decide

theorem readPath_of_written {path : Path} {t : Text} (h : path.Written t) :
    readPath t = .ok path := by
  cases h with
  | @absolute first rest t ht =>
    obtain ⟨u, hu⟩ := first.axis.exists_slashes t
    unfold readPath
    rw [readAxis_slashes first.axis ht.head?_ne, hu]
    simp only [readSteps_of_written ht]
    rfl
  | @relative first rest _ haxis ht =>
    have hhead : (t.head? == some '/') = false := by simpa using ht.head?_ne
    have hsteps := readSteps_of_written ht
    rw [haxis] at hsteps
    unfold readPath
    rw [readAxis_none ht.head?_ne, hhead]
    simp only [hsteps]
    rfl

theorem Path.Written.trimmed {path : Path} {t : Text} (h : path.Written t) : Trimmed t := by
  cases h with
  | @absolute first rest t ht =>
    have hslash : Trimmed first.axis.slashes := by cases first.axis <;> decide
    exact hslash.append [] ht.trimmed
  | relative _ ht => exact ht.trimmed

theorem Path.Written.passes {path : Path} {t : Text} (h : path.Written t) :
    Nesting.Passes '|' .outside t .outside := by
  cases h with
  | @absolute first rest t ht =>
    refine Nesting.Passes.append ?_ ht.passes
    cases first.axis <;> exact .of_not_mark rfl (by decide) fun _ => by decide
  | relative _ ht => exact ht.passes

theorem Written.trimmed {x : XPath} {t : Text} (h : Written x t) : Trimmed t := by
  induction h with
  | single ht => exact ht.trimmed
  | cons ht _ ih => exact ht.trimmed.append ['|'] ih

theorem readPaths_of_written {x : XPath} {t : Text} (h : Written x t) :
    ((splitOutside '|' t).mapM fun path => readPath (trim path)) = .ok x.paths := by
  induction h with
  | single ht =>
    rw [ht.passes.splitOutside, List.mapM_cons, ht.trimmed.2, readPath_of_written ht]
    rfl
  | cons ht _ ih =>
    rw [ht.passes.splitOutside_separator, List.mapM_cons, ht.trimmed.2, readPath_of_written ht, ih]
    rfl

/-- A union of paths is read back from every text that writes it. -/
theorem parse_of_written {x : XPath} {t : Text} (h : Written x t) : parse t = .ok x := by
  have hempty : t.isEmpty = false := List.isEmpty_eq_false_iff.2 h.trimmed.1
  unfold parse
  simp only [h.trimmed.2, hempty, readPaths_of_written h]
  rfl

end Extraction.XPath
