import Extraction.Proofs.TextFacts
import Extraction.Proofs.TreePlaces
import Extraction.XPath.Basic
import Mathlib.Data.Set.Basic

/-!
# The node sets of location paths

What a location path selects, said with sets of nodes: no lists with repeated nodes, no grouping of
positions, no removal of duplicates. Evaluating a path of element steps yields this set, each node
once.

## Main definitions

* `XPath.Predicate.Passes`, `XPath.survivors`: what a predicate asks of the position, the size and
  the node; the candidates that are left after a list of predicates
* `XPath.Step.nodeSet`, `XPath.Path.nodeSet`: the nodes that a step and a path lead to
-/

namespace Extraction.XPath

open Markup

/-! ### Predicates -/

/-- What a predicate asks of a candidate at a position, counted from one, among `size` of them. -/
def Predicate.Passes (position size : Nat) (q : Place) : Predicate → Prop
  | index n => position = n
  | last => position = size
  | hasAttribute name => ∃ _v ∈ q.attribute? name, True
  | attributeIs name value => ∃ v ∈ q.attribute? name, v = value
  | attributeContains name part => ∃ v ∈ q.attribute? name, part <:+: v
  | textIs value => q.ownText = Text.collapse value
  | textContains part => part <:+: q.text

instance (position size : Nat) (q : Place) (predicate : Predicate) :
    Decidable (predicate.Passes position size q) := by
  cases predicate <;> unfold Predicate.Passes <;> infer_instance

/-- The candidates that pass a predicate, with their positions among the candidates so far. -/
def Predicate.passing (predicate : Predicate) (candidates : List Place) : List Place :=
  ((candidates.zipIdx 1).filter fun entry =>
    predicate.Passes entry.2 candidates.length entry.1).map Prod.fst

/-- The candidates that survive predicates from the left to the right. -/
def survivors (predicates : List Predicate) (candidates : List Place) : List Place :=
  predicates.foldl (fun candidates predicate => predicate.passing candidates) candidates

/-- A position is counted from one. -/
def Predicate.Supported : Predicate → Prop
  | index n => 1 ≤ n
  | _ => True

section Positions

variable {α : Type}

/-- Of the entries of a list with their positions from `i` on, one has a given position. -/
theorem filter_zipIdx_eq (l : List α) (i n : Nat) :
    (((l.zipIdx i).filter fun entry => entry.2 = i + n).map Prod.fst) = l[n]?.toList := by
  induction l generalizing i n with
  | nil => rfl
  | cons a l ih =>
    rw [List.zipIdx_cons, List.filter_cons]
    cases n with
    | zero =>
      have hnone : (l.zipIdx (i + 1)).filter (fun entry => entry.2 = i + 0) = [] := by
        rw [List.filter_eq_nil_iff]
        rintro ⟨b, j⟩ hb
        have := List.le_snd_of_mem_zipIdx hb
        simp only [decide_eq_true_eq]
        omega
      rw [if_pos (by simp), hnone]
      rfl
    | succ n =>
      rw [if_neg (by simp), List.getElem?_cons_succ, ← ih (i + 1) n, Nat.add_right_comm,
        Nat.add_assoc]

/-- A condition on the entries alone does not see their positions. -/
theorem filter_zipIdx_fst (l : List α) (i : Nat) (f : α → Bool) :
    (((l.zipIdx i).filter fun entry => f entry.1).map Prod.fst) = l.filter f := by
  induction l generalizing i with
  | nil => rfl
  | cons a l ih =>
    rw [List.zipIdx_cons, List.filter_cons, List.filter_cons]
    cases f a with
    | true => exact congrArg (a :: ·) (ih (i + 1))
    | false => exact ih (i + 1)

end Positions

/-- Whether a node passes a predicate that does not ask for its position. -/
theorem Predicate.holds_iff {predicate : Predicate} {position size : Nat} {q : Place}
    (hindex : ∀ n, predicate ≠ index n) (hlast : predicate ≠ last) :
    predicate.holds q = true ↔ predicate.Passes position size q := by
  cases predicate with
  | index n => exact (hindex n rfl).elim
  | last => exact (hlast rfl).elim
  | hasAttribute name =>
    rw [Predicate.holds, Predicate.Passes]
    cases q.attribute? name <;> simp
  | attributeIs name value =>
    rw [Predicate.holds, Predicate.Passes]
    cases q.attribute? name <;> simp
  | attributeContains name part =>
    rw [Predicate.holds, Predicate.Passes]
    cases q.attribute? name with
    | none => simp
    | some v => simpa using Text.includes_iff
  | textIs value => rw [Predicate.holds, Predicate.Passes, beq_iff_eq]
  | textContains part => exact Text.includes_iff

/-- A predicate keeps of nodes those that pass it at their positions. -/
theorem Predicate.keep_map_node {predicate : Predicate} (h : predicate.Supported)
    (l : List Place) :
    predicate.keep (l.map .node) = (predicate.passing l).map .node := by
  have hnodes {f : Item → Bool} (hf : f ∘ Item.node = predicate.holds)
      (hindex : ∀ n, predicate ≠ index n) (hlast : predicate ≠ last) :
      (l.map Item.node).filter f = (predicate.passing l).map .node := by
    have hpassing : predicate.passing l = l.filter predicate.holds := by
      rw [Predicate.passing, ← filter_zipIdx_fst l 1 predicate.holds]
      congr 2
      funext entry
      exact Bool.eq_iff_iff.2 ((decide_eq_true_iff).trans (holds_iff hindex hlast).symm)
    rw [hpassing, List.filter_map, hf]
  cases predicate with
  | index n =>
    obtain ⟨k, rfl⟩ : ∃ k, n = 1 + k := ⟨n - 1, by have : 1 ≤ n := h; omega⟩
    rw [Predicate.keep, Predicate.passing]
    change _ = (((l.zipIdx 1).filter fun entry => entry.2 = 1 + k).map Prod.fst).map Item.node
    rw [filter_zipIdx_eq, Nat.add_sub_cancel_left, List.getElem?_map]
    cases l[k]? <;> rfl
  | last =>
    rw [Predicate.keep, Predicate.passing]
    change _ = (((l.zipIdx 1).filter fun entry => entry.2 = l.length).map Prod.fst).map Item.node
    cases l with
    | nil => rfl
    | cons a l =>
      have hlen : (a :: l).length = 1 + l.length := Nat.add_comm _ _
      rw [hlen, filter_zipIdx_eq, List.getLast?_map, List.getLast?_eq_getElem?]
      change ((a :: l)[l.length]?.map Item.node).toList = _
      cases (a :: l)[l.length]? <;> rfl
  | hasAttribute | attributeIs | attributeContains | textIs | textContains =>
    exact hnodes rfl (fun _ heq => by cases heq) fun heq => by cases heq

/-- The nodes that all predicates keep are the survivors. -/
theorem keepAll_map_node {predicates : List Predicate} (h : ∀ p ∈ predicates, p.Supported)
    (l : List Place) : keepAll predicates (l.map .node) = (survivors predicates l).map .node := by
  induction predicates generalizing l with
  | nil => rfl
  | cons predicate predicates ih =>
    change keepAll predicates (predicate.keep (l.map .node)) = _
    rw [Predicate.keep_map_node (h _ List.mem_cons_self),
      ih (fun p hp => h p (List.mem_cons_of_mem _ hp))]
    rfl

theorem mem_of_mem_passing {predicate : Predicate} {l : List Place} {q : Place}
    (h : q ∈ predicate.passing l) : q ∈ l := by
  obtain ⟨⟨q, i⟩, hentry, rfl⟩ := List.mem_map.1 h
  exact List.fst_mem_of_mem_zipIdx (List.mem_filter.1 hentry).1

/-- Survivors are candidates. -/
theorem mem_of_mem_survivors {predicates : List Predicate} {l : List Place} {q : Place}
    (h : q ∈ survivors predicates l) : q ∈ l := by
  induction predicates generalizing l with
  | nil => exact h
  | cons predicate predicates ih => exact mem_of_mem_passing (ih h)

/-! ### Steps -/

/-- The nodes that a step may lead to from one node, before its predicates. -/
def Step.IsCandidate (step : Step) (m q : Place) : Prop :=
  match step.test with
  | .label name => q.IsChildOf m ∧ Text.eqIgnoreCase q.label name
  | .anyElement => q.IsChildOf m
  | .self => q = m
  | .parent => q.tree = m.tree ∧ (∃ i, m.path = q.path ++ [i]) ∧ q.IsElement
  | .text | .attribute _ | .anyAttribute => False

/-- A node survives the predicates of a step among its candidates in document order. -/
def Step.Reaches (step : Step) (m q : Place) : Prop :=
  ∃ candidates, Place.Lists candidates (step.IsCandidate m) ∧
    q ∈ survivors step.predicates candidates

/-- The nodes that a step leads to from a set of nodes. -/
def Step.nodeSet (step : Step) (nodes : Set Place) : Set Place :=
  match step.axis with
  | .child => { q | ∃ m ∈ nodes, step.Reaches m q }
  | .descendant => { q | ∃ n ∈ nodes, ∃ m : Place, m.IsWithin n ∧ step.Reaches m q }

/-- Whether a test is one of the names of elements. -/
def Test.IsOfNames (test : Test) : Prop := (∃ name, test = .label name) ∨ test = .anyElement

/-- Whether a step leads to nodes: to elements by their names, on the child axis also to the node
itself or its parent. -/
structure Step.IsNavigation (step : Step) : Prop where
  test : step.test.IsOfNames ∨ step.axis = .child ∧ (step.test = .self ∨ step.test = .parent)
  predicates : ∀ p ∈ step.predicates, p.Supported

/-- The candidates of a step on the child axis, as they are listed. -/
def Step.candidateNodes (step : Step) (m : Place) : List Place :=
  match step.test with
  | .label _ | .anyElement => m.childElements.filter step.test.holds
  | .self => [m]
  | .parent => m.parent?.toList
  | .text | .attribute _ | .anyAttribute => []

theorem Step.lists_candidateNodes (step : Step) (m : Place) :
    Place.Lists (step.candidateNodes m) (step.IsCandidate m) := by
  unfold Step.candidateNodes Step.IsCandidate
  cases step.test with
  | label name => exact (Place.lists_childElements m).filter _
  | anyElement =>
    have h := (Place.lists_childElements m).filter (Test.holds .anyElement)
    exact ⟨fun q => (h.1 q).trans (and_iff_left rfl), h.2⟩
  | self => exact Place.lists_singleton m
  | parent => exact Place.lists_parent? m
  | _ => exact ⟨fun _ => List.mem_nil_iff _, .nil⟩

/-- A step reaches from a node the survivors of its candidates. -/
theorem Step.reaches_iff {step : Step} {m q : Place} :
    step.Reaches m q ↔ q ∈ survivors step.predicates (step.candidateNodes m) := by
  constructor
  · rintro ⟨candidates, hlists, hq⟩
    rwa [(step.lists_candidateNodes m).unique hlists]
  · exact fun hq => ⟨_, step.lists_candidateNodes m, hq⟩

theorem Step.isCandidate_of_reaches {step : Step} {m q : Place} (h : step.Reaches m q) :
    step.IsCandidate m q :=
  ((step.lists_candidateNodes m).1 q).1 (mem_of_mem_survivors (reaches_iff.1 h))

/-- A step stays in the tree. -/
theorem Step.tree_eq_of_reaches {step : Step} {m q : Place} (h : step.Reaches m q) :
    q.tree = m.tree := by
  have hq := isCandidate_of_reaches h
  unfold Step.IsCandidate at hq
  split at hq
  · exact hq.1.1
  · exact hq.1
  · rw [hq]
  · exact hq.1
  all_goals exact hq.elim

/-- On the child axis a step leads from one node to what it reaches from there. -/
theorem Step.fromNode_child {step : Step} (h : step.IsNavigation) (hchild : step.axis = .child)
    (m : Place) :
    step.fromNode m = (survivors step.predicates (step.candidateNodes m)).map .node := by
  rw [← keepAll_map_node h.predicates]
  have hcandidates : step.candidates m = (step.candidateNodes m).map .node := by
    unfold Step.candidates Step.candidateNodes
    obtain (⟨name, htest⟩ | htest) | ⟨-, htest | htest⟩ := h.test
    all_goals rw [htest]
    · rfl
    · rfl
    · rw [hchild]
      rfl
  rw [← hcandidates]
  unfold Step.fromNode
  rw [hchild]

/-- What a step to elements by their names keeps of them at one parent. -/
theorem Step.keepAll_childrenBy {step : Step} (h : step.IsNavigation)
    (htest : step.test.IsOfNames) (m : Place) :
    (keepAll step.predicates (childrenBy step.test m)).filterMap Item.node? =
      survivors step.predicates (step.candidateNodes m) := by
  have hcandidates : childrenBy step.test m = (step.candidateNodes m).map .node := by
    unfold childrenBy Step.candidateNodes
    obtain ⟨name, htest⟩ | htest := htest
    · rw [htest]
    · rw [htest]
  rw [hcandidates, keepAll_map_node h.predicates, List.filterMap_map]
  exact List.filterMap_some

/-- A place that is listed and whose path is that of a place of the same tree is that place. -/
theorem any_path_beq_iff {l : List Place} {q : Place} (hl : ∀ p ∈ l, p.tree = q.tree) :
    l.any (·.path == q.path) = true ↔ q ∈ l := by
  rw [List.any_eq_true]
  constructor
  · rintro ⟨p, hp, hpath⟩
    have hpq : p = q := Place.eq_of_path_eq (hl p hp) (beq_iff_eq.1 hpath)
    exact hpq ▸ hp
  · exact fun hq => ⟨q, hq, beq_self_eq_true _⟩

/-- On the descendant axis a step leads from one node to elements below it, which are those that it
reaches from the nodes within. -/
theorem Step.fromNode_descendant {step : Step} (h : step.IsNavigation)
    (hdesc : step.axis = .descendant) (n : Place) :
    ∃ nodes : List Place, step.fromNode n = nodes.map .node ∧
      ∀ q, q ∈ nodes ↔ ∃ m : Place, m.IsWithin n ∧ step.Reaches m q := by
  have htest : step.test.IsOfNames := by
    rcases h.test with htest | ⟨hchild, -⟩
    · exact htest
    · rw [hdesc] at hchild
      cases hchild
  have hfrom : step.fromNode n = step.descendants n := by
    unfold Step.fromNode
    rw [hdesc]
    obtain ⟨name, htest⟩ | htest := htest
    · rw [htest]
    · rw [htest]
  have hkept : (withDescendants n).flatMap (fun m =>
        (keepAll step.predicates (childrenBy step.test m)).filterMap Item.node?) =
      (withDescendants n).flatMap fun m =>
        survivors step.predicates (step.candidateNodes m) :=
    congrArg (List.flatMap · _) (funext (step.keepAll_childrenBy h htest))
  have hmem (q : Place) : (q ∈ (withDescendants n).flatMap fun m =>
      survivors step.predicates (step.candidateNodes m)) ↔
        ∃ m : Place, m.IsWithin n ∧ step.Reaches m q := by
    simp only [List.mem_flatMap, withDescendants, Place.mem_cons_descendantElements,
      Step.reaches_iff]
  have htree (q : Place) (m : Place) (hm : m.IsWithin n) (hq : step.Reaches m q) :
      q.tree = n.tree := by
    rw [tree_eq_of_reaches hq]
    rcases hm with rfl | ⟨hm, -⟩
    · rfl
    · exact hm
  refine ⟨_, hfrom, fun q => ?_⟩
  rw [List.mem_filter, hkept]
  constructor
  · rintro ⟨hq, hany⟩
    refine (hmem q).1 ((any_path_beq_iff fun p hp => ?_).1 hany)
    obtain ⟨m, hm, hreach⟩ := (hmem p).1 hp
    exact (htree p m hm hreach).trans (Place.mem_descendantElements.1 hq).1.symm
  · rintro ⟨m, hm, hreach⟩
    have hq : q ∈ n.descendantElements := by
      have hcand := isCandidate_of_reaches hreach
      unfold Step.IsCandidate at hcand
      obtain ⟨name, htest⟩ | htest := htest
      · rw [htest] at hcand
        exact hcand.1.mem_descendantElements hm
      · rw [htest] at hcand
        exact hcand.mem_descendantElements hm
    refine ⟨hq, (any_path_beq_iff fun p hp => ?_).2 ((hmem q).2 ⟨m, hm, hreach⟩)⟩
    obtain ⟨m', hm', hreach'⟩ := (hmem p).1 hp
    exact (htree p m' hm' hreach').trans (Place.mem_descendantElements.1 hq).1.symm

/-- From one node a step leads to nodes, and to those that the set of this node leads to. -/
theorem Step.fromNode_nodeSet {step : Step} (h : step.IsNavigation) (n : Place) :
    ∃ nodes : List Place, step.fromNode n = nodes.map .node ∧
      ∀ q, q ∈ nodes ↔ q ∈ step.nodeSet {n} := by
  unfold Step.nodeSet
  cases haxis : step.axis with
  | child =>
    refine ⟨_, step.fromNode_child h haxis n, fun q => ?_⟩
    rw [← Step.reaches_iff]
    exact ⟨fun hq => ⟨n, rfl, hq⟩, fun ⟨m, hm, hq⟩ => hm ▸ hq⟩
  | descendant =>
    obtain ⟨nodes, hnodes, hmem⟩ := step.fromNode_descendant h haxis n
    refine ⟨nodes, hnodes, fun q => (hmem q).trans ?_⟩
    exact ⟨fun hq => ⟨n, rfl, hq⟩, fun ⟨m, hm, hq⟩ => hm ▸ hq⟩

theorem Step.mem_nodeSet_iff {step : Step} {nodes : Set Place} {q : Place} :
    q ∈ step.nodeSet nodes ↔ ∃ n ∈ nodes, q ∈ step.nodeSet {n} := by
  unfold Step.nodeSet
  cases step.axis with
  | child => simp
  | descendant => simp

/-- A step takes a list of the nodes of a set to a list of the nodes that it leads to from the
set. -/
theorem Step.apply_nodeSet {step : Step} (h : step.IsNavigation) (l : List Place) :
    ∃ nodes : List Place, step.apply (l.map .node) = nodes.map .node ∧
      ∀ q, q ∈ nodes ↔ q ∈ step.nodeSet { n | n ∈ l } := by
  choose from_ hfrom hmem using step.fromNode_nodeSet h
  refine ⟨l.flatMap from_, ?_, fun q => ?_⟩
  · rw [Step.apply, List.flatMap_map, List.map_flatMap]
    exact congrArg (List.flatMap · l) (funext hfrom)
  · rw [Step.mem_nodeSet_iff, List.mem_flatMap]
    exact exists_congr fun n => and_congr_right fun _ => hmem n q

theorem Step.tree_eq_of_mem_nodeSet {step : Step} {nodes : Set Place} {t : Tree} {q : Place}
    (hnodes : ∀ n ∈ nodes, n.tree = t) (hq : q ∈ step.nodeSet nodes) : q.tree = t := by
  unfold Step.nodeSet at hq
  split at hq
  · obtain ⟨m, hm, hreach⟩ := hq
    exact (tree_eq_of_reaches hreach).trans (hnodes m hm)
  · obtain ⟨n, hn, m, rfl | ⟨hm, -⟩, hreach⟩ := hq
    · exact (tree_eq_of_reaches hreach).trans (hnodes m hn)
    · exact (tree_eq_of_reaches hreach).trans (hm.trans (hnodes n hn))

/-! ### Paths -/

/-- Where a path starts: one that begins with a slash, at the top if its context is the root. -/
def Path.StartsAt (path : Path) (context p : Place) : Prop :=
  if path.absolute then
    context = context.tree.root ∧ p = context.topLevel ∨
      context ≠ context.tree.root ∧ p = context
  else p = context

/-- The nodes that a path leads to. -/
def Path.nodeSet (path : Path) (context : Place) : Set Place :=
  path.steps.foldl (fun nodes step => step.nodeSet nodes) { p | path.StartsAt context p }

theorem isRoot_iff {p : Place} : p.isRoot = true ↔ p = p.tree.root := by
  rw [Place.isRoot, beq_iff_eq]
  constructor
  · exact fun h => Place.eq_of_path_eq rfl h
  · exact fun h => congrArg Place.path h

/-- A path starts where it is said to. -/
theorem Path.startsAt_iff {path : Path} {context p : Place} :
    path.StartsAt context p ↔ p = path.start context := by
  unfold Path.StartsAt Path.start
  cases path.absolute with
  | false => rfl
  | true =>
    by_cases hroot : context = context.tree.root
    · simp only [Bool.true_and, isRoot_iff.2 hroot, if_true]
      exact ⟨fun h => h.elim And.right fun h => (h.1 hroot).elim, fun h => .inl ⟨hroot, h⟩⟩
    · have hfalse : context.isRoot = false := by
        rw [← Bool.not_eq_true]
        exact fun h => hroot (isRoot_iff.1 h)
      simp only [Bool.true_and, hfalse, if_true, Bool.false_eq_true, if_false]
      exact ⟨fun h => h.elim (fun h => (hroot h.1).elim) And.right, fun h => .inr ⟨hroot, h⟩⟩

theorem Path.tree_start (path : Path) (context : Place) :
    (path.start context).tree = context.tree := by
  unfold Path.start Place.topLevel
  split
  · split <;> rfl
  · rfl

/-- The steps of a path take a list of the nodes of a set to a list of the nodes that they lead to,
all in the same tree. -/
theorem foldl_apply_nodeSet {steps : List Step} (h : ∀ step ∈ steps, step.IsNavigation) {t : Tree}
    (l : List Place) (nodes : Set Place) (hl : ∀ q, q ∈ l ↔ q ∈ nodes)
    (htree : ∀ n ∈ nodes, n.tree = t) :
    ∃ l' : List Place, steps.foldl (fun items step => step.apply items) (l.map .node) =
        l'.map .node ∧
      (∀ q, q ∈ l' ↔ q ∈ steps.foldl (fun nodes step => step.nodeSet nodes) nodes) ∧
      ∀ q ∈ l', q.tree = t := by
  induction steps generalizing l nodes with
  | nil => exact ⟨l, rfl, hl, fun q hq => htree q ((hl q).1 hq)⟩
  | cons step steps ih =>
    obtain ⟨l', hl', hmem⟩ := step.apply_nodeSet (h step List.mem_cons_self) l
    have hnodes : { n | n ∈ l } = nodes := Set.ext hl
    rw [hnodes] at hmem
    rw [List.foldl_cons, List.foldl_cons, hl']
    exact ih (fun s hs => h s (List.mem_cons_of_mem _ hs)) l' _ hmem
      fun q hq => Step.tree_eq_of_mem_nodeSet htree hq

/-- Of nodes of one tree the first mention of each is left. -/
theorem distinct_map_node {t : Tree} (l : List Place) (htree : ∀ q ∈ l, q.tree = t)
    (seen : List (List Nat)) :
    ∃ l' : List Place, distinct seen (l.map .node) = l'.map .node ∧ l'.Nodup ∧
      ∀ q, q ∈ l' ↔ q ∈ l ∧ q.path ∉ seen := by
  induction l generalizing seen with
  | nil => exact ⟨[], rfl, .nil, fun q => by simp⟩
  | cons p l ih =>
    have hl : ∀ q ∈ l, q.tree = t := fun q hq => htree q (List.mem_cons_of_mem _ hq)
    rw [List.map_cons, distinct]
    by_cases hp : p.path ∈ seen
    · obtain ⟨l', hl', hnodup, hmem⟩ := ih hl seen
      rw [if_pos (List.elem_iff.2 hp)]
      refine ⟨l', hl', hnodup, fun q => ?_⟩
      rw [hmem q, List.mem_cons, or_and_right]
      refine ⟨.inr, fun h => h.resolve_left ?_⟩
      rintro ⟨rfl, hq⟩
      exact hq hp
    · obtain ⟨l', hl', hnodup, hmem⟩ := ih hl (p.path :: seen)
      rw [if_neg (fun h => hp (List.elem_iff.1 h)), hl']
      refine ⟨p :: l', rfl, List.nodup_cons.2 ⟨fun h => ?_, hnodup⟩, fun q => ?_⟩
      · exact ((hmem p).1 h).2 List.mem_cons_self
      · rw [List.mem_cons, hmem q, List.mem_cons, List.mem_cons]
        constructor
        · rintro (rfl | ⟨hq, hseen⟩)
          · exact ⟨.inl rfl, hp⟩
          · exact ⟨.inr hq, fun h => hseen (.inr h)⟩
        · rintro ⟨rfl | hq, hseen⟩
          · exact .inl rfl
          · by_cases hqp : q = p
            · exact .inl hqp
            · refine .inr ⟨hq, fun h => h.elim (fun hpath => hqp ?_) hseen⟩
              exact Place.eq_of_path_eq ((hl q hq).trans (htree p List.mem_cons_self).symm) hpath

/-- A path of element steps leads to the nodes of its node set, each once. -/
theorem evaluate_eq_nodeSet (path : Path) (context : Place)
    (h : ∀ step ∈ path.steps, step.IsNavigation) :
    ∃ nodes : List Place, (XPath.mk [path]).evaluate context = nodes.map .node ∧ nodes.Nodup ∧
      ∀ q, q ∈ nodes ↔ q ∈ path.nodeSet context := by
  obtain ⟨l, hl, hmem, htree⟩ := foldl_apply_nodeSet h [path.start context]
    { p | path.StartsAt context p }
    (fun q => List.mem_singleton.trans Path.startsAt_iff.symm)
    (fun q hq => (congrArg Place.tree (Path.startsAt_iff.1 hq)).trans (path.tree_start context))
  obtain ⟨nodes, hnodes, hnodup, hin⟩ := distinct_map_node l htree []
  refine ⟨nodes, ?_, hnodup, fun q => ?_⟩
  · rw [XPath.evaluate, List.flatMap_cons, List.flatMap_nil, List.append_nil, ← hnodes]
    exact congrArg (distinct []) hl
  · rw [hin q, hmem q]
    exact and_iff_left List.not_mem_nil

/-- The path `//b[@c][2]/..` in a document where the root has two such children below one
element. -/
theorem evaluate_eq_nodeSet_second :
    let b := Node.element ⟨.html, ['b']⟩ [⟨[], ['c'], []⟩] []
    let t : Tree := ⟨.document [.element ⟨.html, ['a']⟩ [] [.text ['x'], b, b]], false⟩
    let path : Path := ⟨true, [⟨.descendant, .label ['b'], [.hasAttribute ['c'], .index 2]⟩,
      ⟨.child, .parent, []⟩]⟩
    (∀ step ∈ path.steps, step.IsNavigation) ∧
      ∃ nodes : List Place, (XPath.mk [path]).evaluate t.root = nodes.map .node ∧ nodes.Nodup ∧
        ∀ q, q ∈ nodes ↔ q ∈ path.nodeSet t.root := by
  intro b t path
  have h : ∀ step ∈ path.steps, step.IsNavigation := by
    simp only [path, List.forall_mem_cons, List.not_mem_nil, false_implies, implies_true, and_true]
    exact ⟨⟨.inl (.inl ⟨_, rfl⟩), by simp [Predicate.Supported]⟩,
      ⟨.inr ⟨rfl, .inr rfl⟩, nofun⟩⟩
  exact ⟨h, evaluate_eq_nodeSet path t.root h⟩

end Extraction.XPath
