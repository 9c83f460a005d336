import Extraction.Proofs.TreeTexts
import Extraction.Proofs.VisitedNodes
import Mathlib.Data.List.Flatten

/-!
# Positions among texts and attributes

A step to the texts or attributes below a node finds all of them and then counts positions among
them, wherever they are. Read node by node, every node counts its own. The two agree as long as no
position is asked for, and for positions exactly if all that is found is in one node.

## Main definitions

* `XPath.below`, `XPath.directly`: the paths `//T[..]` and `T[..]` for a test and predicates
* `XPath.nodeByNode`: what `T[..]` leads to from a node and from all elements below it
* `XPath.HasOneHolder`: what a test finds is in one node at most
-/

namespace Extraction.XPath

open Markup

/-- The path `//T[..]`. -/
def below (test : Test) (predicates : List Predicate) : XPath :=
  ⟨[⟨true, [⟨.descendant, test, predicates⟩]⟩]⟩

/-- The path `T[..]`. -/
def directly (test : Test) (predicates : List Predicate) : XPath :=
  ⟨[⟨false, [⟨.child, test, predicates⟩]⟩]⟩

/-- What `T[..]` leads to from a node and from the elements below it, put together. -/
def nodeByNode (test : Test) (predicates : List Predicate) (context : Place) : List Item :=
  (withDescendants context).flatMap fun m => (directly test predicates).evaluate m

/-- Whether a test is about texts or attributes. -/
def Test.IsOfTexts (test : Test) : Prop :=
  test = .text ∨ (∃ name, test = .attribute name) ∨ test = .anyAttribute

/-- Whether a predicate asks for a position. -/
def Predicate.IsPosition : Predicate → Prop
  | .index _ | .last => True
  | _ => False

/-- Of a node and the elements below it, one at most has anything that the test finds. -/
def HasOneHolder (test : Test) (context : Place) : Prop :=
  (withDescendants context).countP (fun m => !((directly test []).evaluate m).isEmpty) ≤ 1

/-! ### What a test finds -/

/-- The texts that a test finds from a node, directly in it or also below it. -/
def Test.found (test : Test) (axis : Axis) (p : Place) : List Text :=
  match test with
  | .text =>
    match axis with
    | .child => p.ownTextNodes
    | .descendant => p.textNodes
  | .attribute name => (owners axis p).filterMap (·.attribute? name)
  | .anyAttribute => (owners axis p).flatMap (·.attributeValues)
  | _ => []

theorem keepAll_nil (predicates : List Predicate) : keepAll predicates [] = [] :=
  List.sublist_nil.1 (keepAll_sublist predicates [])

/-- A step to texts or attributes filters what its test finds. -/
theorem evaluate_found {test : Test} (h : test.IsOfTexts) (absolute : Bool) (axis : Axis)
    (predicates : List Predicate) (context : Place) :
    (XPath.mk [⟨absolute, [⟨axis, test, predicates⟩]⟩]).evaluate context =
      keepAll predicates
        ((test.found axis (Path.start ⟨absolute, [⟨axis, test, predicates⟩]⟩ context)).map
          .text) := by
  have hfrom (p : Place) : Step.fromNode ⟨axis, test, predicates⟩ p =
      keepAll predicates ((test.found axis p).map .text) := by
    obtain rfl | ⟨name, rfl⟩ | rfl := h
    · cases axis <;> rfl
    · cases axis <;> rfl
    · cases axis <;> rfl
  have hpath : Path.evaluate ⟨absolute, [⟨axis, test, predicates⟩]⟩ context =
      Step.fromNode ⟨axis, test, predicates⟩
        (Path.start ⟨absolute, [⟨axis, test, predicates⟩]⟩ context) := List.flatMap_singleton _ _
  obtain ⟨kept, -, hkept⟩ := List.sublist_map_iff.1 (keepAll_sublist predicates
    ((test.found axis (Path.start ⟨absolute, [⟨axis, test, predicates⟩]⟩ context)).map .text))
  rw [XPath.evaluate, List.flatMap_singleton, hpath, hfrom, hkept, distinct_map_text]

theorem evaluate_directly {test : Test} (h : test.IsOfTexts) (predicates : List Predicate)
    (context : Place) :
    (directly test predicates).evaluate context =
      keepAll predicates ((test.found .child context).map .text) :=
  evaluate_found h false .child predicates context

theorem evaluate_below {test : Test} (h : test.IsOfTexts) (predicates : List Predicate)
    (context : Place) :
    (below test predicates).evaluate context =
      keepAll predicates
        ((test.found .descendant (Path.start ⟨true, []⟩ context)).map .text) :=
  evaluate_found h true .descendant predicates context

namespace Test

variable {test : Test} {p q : Place}

/-- Below a node a test finds what it finds directly in the node and in the elements below it. -/
theorem found_perm (h : test.IsOfTexts) (htext : p.node?.bind Node.text? = none)
    (hdocument : ∀ n ∈ p.node?, n.HoldsNoDocument) :
    (test.found .descendant p).Perm ((withDescendants p).flatMap (test.found .child)) := by
  obtain rfl | ⟨name, rfl⟩ | rfl := h
  · exact Place.textNodes_perm htext hdocument
  · refine .of_eq ?_
    show (withDescendants p).filterMap (·.attribute? name) =
      (withDescendants p).flatMap fun m => [m].filterMap (·.attribute? name)
    rw [← List.filterMap_flatMap, List.flatMap_singleton']
  · have hdirectly : found .anyAttribute .child = Place.attributeValues :=
      funext fun m => List.flatMap_singleton _ m
    rw [hdirectly]
    exact .refl _

/-- What a test finds directly in a node stands in its order among all that is found. -/
theorem found_sublist (h : test.IsOfTexts) (hq : q ∈ withDescendants p) :
    (test.found .child q).Sublist (test.found .descendant p) := by
  obtain rfl | ⟨name, rfl⟩ | rfl := h
  · exact Place.ownTextNodes_sublist (Place.mem_cons_descendantElements.1 hq)
  · exact (List.singleton_sublist.2 hq).filterMap (·.attribute? name)
  · exact (List.singleton_sublist.2 hq).flatMap (·.attributeValues)

/-- Directly in the document of a well-formed tree nothing is found. -/
theorem found_document {t : Tree} (h : test.IsOfTexts) (ht : t.IsWellFormed) :
    test.found .child t.document = [] := by
  have hattributes : t.document.attributes = [] := by
    obtain ⟨children, htop⟩ := ht.top
    show t.top.attributes = []
    rw [htop]
    rfl
  obtain rfl | ⟨name, rfl⟩ | rfl := h
  · have htexts : t.document.ownTexts = [] := ht.noText
    show collapsed t.document.ownTexts = []
    rw [htexts]
    rfl
  · have hnone : t.document.attribute? name = none := by
      rw [Place.attribute?, hattributes]
      rfl
    show [t.document].filterMap (·.attribute? name) = []
    rw [List.filterMap_cons, hnone]
    rfl
  · show [t.document].flatMap (·.attributeValues) = []
    rw [List.flatMap_singleton, Place.attributeValues, hattributes]
    rfl

end Test

/-- A path from the root starts at the document, which adds nothing to the nodes within the root but
itself. -/
theorem withDescendants_start {context : Place} (h : context.tree.IsWellFormed) :
    Path.start ⟨true, []⟩ context = context ∨
      Path.start ⟨true, []⟩ context = context.tree.document ∧
        withDescendants context.tree.document =
          context.tree.document :: withDescendants context := by
  unfold Path.start
  split
  · next hroot =>
    have hroot : context = context.tree.root := by
      rw [Bool.true_and, Place.isRoot, beq_iff_eq] at hroot
      exact Place.eq_of_path_eq rfl hroot
    unfold Place.topLevel
    split
    · exact .inl hroot.symm
    · by_cases hpath : context.tree.rootPath = []
      · refine .inl (Place.eq_of_path_eq rfl ?_)
        rw [hroot]
        exact hpath.symm
      · refine .inr ⟨rfl, ?_⟩
        unfold withDescendants
        rw [h.descendantElements_document hpath, ← hroot]
  · exact .inl rfl

/-- All that is found below a context is found directly in the nodes within it. -/
theorem found_start_perm {test : Test} {context : Place} (h : test.IsOfTexts)
    (htree : context.tree.IsWellFormed) (htext : context.node?.bind Node.text? = none) :
    (test.found .descendant (Path.start ⟨true, []⟩ context)).Perm
      ((withDescendants context).flatMap (test.found .child)) := by
  rcases withDescendants_start htree with hstart | ⟨hstart, hnodes⟩
  · rw [hstart]
    exact Test.found_perm h htext (htree.holdsNoDocument rfl)
  · have hdocument : context.tree.document.node?.bind Node.text? = none := by
      obtain ⟨children, htop⟩ := htree.top
      show context.tree.top.text? = none
      rw [htop]
      rfl
    have hperm := Test.found_perm h hdocument (htree.holdsNoDocument rfl)
    rwa [hnodes, List.flatMap_cons, Test.found_document h htree, List.nil_append,
      ← hstart] at hperm

theorem mem_withDescendants_start {context m : Place} (htree : context.tree.IsWellFormed)
    (hm : m ∈ withDescendants context) : m ∈ withDescendants (Path.start ⟨true, []⟩ context) := by
  rcases withDescendants_start htree with hstart | ⟨hstart, hnodes⟩
  · rwa [hstart]
  · rw [hstart, hnodes]
    exact List.mem_cons_of_mem _ hm

/-! ### Predicates on texts -/

/-- A predicate that asks for no position keeps no text. -/
theorem keepAll_of_not_isPosition {predicates : List Predicate} (hne : predicates ≠ [])
    (h : ∀ p ∈ predicates, ¬ p.IsPosition) (l : List Text) :
    keepAll predicates (l.map .text) = [] := by
  obtain ⟨predicate, rest, rfl⟩ := List.exists_cons_of_ne_nil hne
  have hnone : predicate.keep (l.map .text) = [] := by
    cases predicate with
    | index position => exact (h _ List.mem_cons_self trivial).elim
    | last => exact (h _ List.mem_cons_self trivial).elim
    | _ =>
      -- only nodes are held against any other predicate
      apply List.filter_eq_nil_iff.mpr
      intro item hitem
      obtain ⟨s, -, rfl⟩ := List.mem_map.1 hitem
      exact Bool.false_ne_true
  show keepAll rest (predicate.keep (l.map .text)) = []
  rw [hnone, keepAll_nil]

section Lists

variable {α β γ : Type}

/-- If one entry at most leads to anything, that one leads to all. -/
theorem flatMap_eq_of_countP {l : List α} {f : α → List β} {m : α}
    (h : l.countP (fun a => !(f a).isEmpty) ≤ 1) (hm : m ∈ l) (hholds : f m ≠ [])
    {g : α → List γ} (hg : ∀ a, f a = [] → g a = []) : l.flatMap g = g m := by
  obtain ⟨u, v, rfl⟩ := List.append_of_mem hm
  have hone : (!(f m).isEmpty) = true := by
    rwa [Bool.not_eq_true', List.isEmpty_eq_false_iff]
  rw [List.countP_append, List.countP_cons, if_pos hone] at h
  have hempty {l : List α} (hl : l.countP (fun a => !(f a).isEmpty) = 0) : l.flatMap g = [] := by
    rw [List.flatMap_eq_nil_iff]
    intro a ha
    have hnot := List.countP_eq_zero.1 hl a ha
    rw [Bool.not_eq_true', List.isEmpty_eq_false_iff, not_not] at hnot
    exact hg a hnot
  rw [List.flatMap_append, List.flatMap_cons, hempty (by omega), hempty (by omega),
    List.append_nil, List.nil_append]

/-- Entries that lead to one thing each, if to any, lead to as many as there are of them. -/
theorem length_flatMap_eq_countP {l : List α} {f : α → List β} {g : α → List γ}
    (h : ∀ a, (g a).length = if (f a).isEmpty then 0 else 1) :
    (l.flatMap g).length = l.countP fun a => !(f a).isEmpty := by
  induction l with
  | nil => rfl
  | cons a l ih =>
    rw [List.flatMap_cons, List.length_append, ih, h a, List.countP_cons]
    cases (f a).isEmpty with
    | true => simp
    | false => simp [Nat.add_comm]

end Lists

/-! ### The two readings -/

theorem nodeByNode_eq {test : Test} (h : test.IsOfTexts) (predicates : List Predicate)
    (context : Place) :
    nodeByNode test predicates context = (withDescendants context).flatMap fun m =>
      keepAll predicates ((test.found .child m).map .text) :=
  congrArg (List.flatMap · _) (funext fun m => evaluate_directly h predicates m)

theorem hasOneHolder_iff {test : Test} (h : test.IsOfTexts) {context : Place} :
    HasOneHolder test context ↔
      (withDescendants context).countP (fun m => !(test.found .child m).isEmpty) ≤ 1 := by
  have hholds : (fun m => !((directly test []).evaluate m).isEmpty) =
      fun m => !(test.found .child m).isEmpty := by
    funext m
    have hm : (directly test []).evaluate m = (test.found .child m).map .text :=
      evaluate_directly h [] m
    rw [hm, List.isEmpty_map]
  rw [HasOneHolder, hholds]

section Readings

variable {test : Test} {context : Place} (h : test.IsOfTexts) (htree : context.tree.IsWellFormed)
  (htext : context.node?.bind Node.text? = none)

include h htree htext

/-- Without positions all that is found is kept, or nothing. -/
theorem below_perm_of_not_isPosition {predicates : List Predicate}
    (hnot : ∀ p ∈ predicates, ¬ p.IsPosition) :
    ((below test predicates).evaluate context).Perm (nodeByNode test predicates context) := by
  rw [evaluate_below h, nodeByNode_eq h]
  by_cases hnil : predicates = []
  · subst hnil
    show ((test.found .descendant _).map Item.text).Perm
      ((withDescendants context).flatMap fun m => (test.found .child m).map .text)
    rw [← List.map_flatMap]
    exact (found_start_perm h htree htext).map _
  · rw [keepAll_of_not_isPosition hnil hnot, List.flatMap_eq_nil_iff.2]
    exact fun m _ => keepAll_of_not_isPosition hnil hnot _

/-- If one node holds all that is found, both readings filter the same texts. -/
theorem below_perm_of_hasOneHolder (hone : HasOneHolder test context)
    (predicates : List Predicate) :
    ((below test predicates).evaluate context).Perm (nodeByNode test predicates context) := by
  rw [hasOneHolder_iff h] at hone
  rw [evaluate_below h, nodeByNode_eq h]
  have hfound := found_start_perm h htree htext
  have hempty {m : Place} (hm : test.found .child m = []) :
      keepAll predicates ((test.found .child m).map .text) = [] := by
    rw [hm]
    exact keepAll_nil predicates
  by_cases hsome : ∃ m ∈ withDescendants context, test.found .child m ≠ []
  · obtain ⟨m, hm, hne⟩ := hsome
    have hperm : (test.found .descendant (Path.start ⟨true, []⟩ context)).Perm
        (test.found .child m) := by
      rwa [flatMap_eq_of_countP hone hm hne fun _ hm => hm] at hfound
    have hsame : test.found .child m = test.found .descendant (Path.start ⟨true, []⟩ context) :=
      (Test.found_sublist h (mem_withDescendants_start htree hm)).eq_of_length
        hperm.length_eq.symm
    rw [flatMap_eq_of_countP hone hm hne fun _ => hempty, hsame]
  · have hnone : ∀ m ∈ withDescendants context, test.found .child m = [] :=
      fun m hm => not_not.1 fun hne => hsome ⟨m, hm, hne⟩
    rw [List.flatMap_eq_nil_iff.2 hnone] at hfound
    have hall : ((withDescendants context).flatMap fun m =>
        keepAll predicates ((test.found .child m).map .text)) = [] :=
      List.flatMap_eq_nil_iff.2 fun m hm => hempty (hnone m hm)
    rw [hfound.eq_nil, hall]
    exact .of_eq (keepAll_nil predicates)

omit htree htext in
/-- Of `[last()]` there is one item below, but one from each node that holds any. -/
theorem hasOneHolder_of_perm
    (hlast : ((below test [.last]).evaluate context).Perm (nodeByNode test [.last] context)) :
    HasOneHolder test context := by
  have hlength (items : List Item) :
      (keepAll [.last] items).length = if items.isEmpty then 0 else 1 := by
    show items.getLast?.toList.length = _
    cases items with
    | nil => rfl
    | cons item items =>
      rw [List.getLast?_cons]
      rfl
  have hcount : (nodeByNode test [.last] context).length =
      (withDescendants context).countP fun m => !(test.found .child m).isEmpty := by
    rw [nodeByNode_eq h]
    refine length_flatMap_eq_countP fun m => ?_
    rw [hlength, List.isEmpty_map]
  rw [hasOneHolder_iff h, ← hcount, ← hlast.length_eq, evaluate_below h, hlength]
  split
  · exact Nat.zero_le 1
  · exact Nat.le_refl 1

end Readings

/-- Positions aside, `//T[..]` leads to what `T[..]` leads to node by node. With positions it does so
for all predicates exactly if what the test finds is in one node at most. -/
theorem evaluate_below_perm_iff (test : Test) (context : Place) (h : test.IsOfTexts)
    (htree : context.tree.IsWellFormed) (htext : context.node?.bind Node.text? = none) :
    (∀ predicates : List Predicate, (∀ p ∈ predicates, ¬ p.IsPosition) →
      ((below test predicates).evaluate context).Perm (nodeByNode test predicates context)) ∧
    ((∀ predicates : List Predicate,
      ((below test predicates).evaluate context).Perm (nodeByNode test predicates context)) ↔
        HasOneHolder test context) := by
  constructor
  · intro predicates hnot
    exact below_perm_of_not_isPosition h htree htext hnot
  · constructor
    · intro hall
      exact hasOneHolder_of_perm h (hall [.last])
    · intro hone predicates
      exact below_perm_of_hasOneHolder h htree htext hone predicates

/-- A list of texts in one paragraph: every `//text()[..]` counts among them. -/
theorem evaluate_below_perm_iff_oneParagraph :
    let b := Node.element ⟨.html, ['b']⟩ [] []
    let p := Node.element ⟨.html, ['p']⟩ [] [.text ['1'], b, .text ['2']]
    let t : Tree := ⟨.document [.element ⟨.html, "div".toList⟩ [] [p]], false⟩
    Test.text.IsOfTexts ∧ t.IsWellFormed ∧ t.root.node?.bind Node.text? = none ∧
      HasOneHolder .text t.root ∧
      ∀ predicates : List Predicate,
        ((below .text predicates).evaluate t.root).Perm (nodeByNode .text predicates t.root) := by
  intro b p t
  have htree : t.IsWellFormed := by
    refine ⟨⟨_, rfl⟩, ?_, rfl, by decide +kernel⟩
    simp [t, p, b, Node.isDocument]
  have hone : HasOneHolder .text t.root := by
    unfold HasOneHolder
    decide +kernel
  have hreadings := evaluate_below_perm_iff .text t.root (.inl rfl) htree rfl
  exact ⟨.inl rfl, htree, rfl, hone, hreadings.2.2 hone⟩

/-- Of the texts in two paragraphs `//text()[1]` keeps one, and not the first one of each. -/
theorem not_evaluate_below_perm_paragraphs :
    let p := fun s => Node.element ⟨.html, ['p']⟩ [] [.text s]
    let t : Tree := ⟨.document [.element ⟨.html, "div".toList⟩ [] [p ['a'], p ['b']]], false⟩
    Test.text.IsOfTexts ∧ t.IsWellFormed ∧ t.root.node?.bind Node.text? = none ∧
      ¬ ((below .text [.index 1]).evaluate t.root).Perm (nodeByNode .text [.index 1] t.root) := by
  intro p t
  have htree : t.IsWellFormed := by
    refine ⟨⟨_, rfl⟩, ?_, rfl, by decide +kernel⟩
    simp [t, p, Node.isDocument]
  refine ⟨.inl rfl, htree, rfl, fun hperm => ?_⟩
  have hone : ((below .text [.index 1]).evaluate t.root).length = 1 := by decide +kernel
  have htwo : (nodeByNode .text [.index 1] t.root).length = 2 := by decide +kernel
  rw [hperm.length_eq, htwo] at hone
  cases hone

end Extraction.XPath
