import Extraction.Proofs.NodeSets

/-!
# The nodes that a path visits

While the steps of a path are taken one after the other, a node may be reached more than once, from
several nodes before it. What a path leads to is made from the nodes visited last: a path to nodes
yields these, less the repetitions, and a further step to attributes reads them as often as they were
visited.

## Main definitions

* `XPath.Step.nodes`: the nodes that a step leads to from one node
* `XPath.visit`: the nodes that steps lead to from a list of nodes, as often as they are reached
-/

namespace Extraction.XPath

open Markup

/-- The nodes that a step leads to from one node. -/
def Step.nodes (step : Step) (p : Place) : List Place := (step.fromNode p).filterMap Item.node?

/-- The nodes that steps lead to from those of a list, as often as they are reached. -/
def visit (steps : List Step) (l : List Place) : List Place :=
  steps.foldl (fun l step => l.flatMap step.nodes) l

/-- Whether a test is about nodes and not about their texts or attributes. -/
def Test.IsOfNodes : Test → Prop
  | .label _ | .anyElement | .self | .parent => True
  | .text | .attribute _ | .anyAttribute => False

theorem Test.IsOfNames.isOfNodes {test : Test} (h : test.IsOfNames) : test.IsOfNodes := by
  obtain ⟨name, rfl⟩ | rfl := h
  · trivial
  · trivial

/-! ### Nodes among items -/

@[simp] theorem filterMap_node?_map_node (l : List Place) :
    (l.map Item.node).filterMap Item.node? = l := by
  rw [List.filterMap_map]
  exact List.filterMap_some

@[simp] theorem filterMap_node?_map_text (l : List Text) :
    (l.map Item.text).filterMap Item.node? = [] := by
  rw [List.filterMap_map, List.filterMap_eq_nil_iff]
  exact fun _ _ => rfl

/-- Texts are never left out as repetitions. -/
theorem distinct_map_text (seen : List (List Nat)) (l : List Text) :
    distinct seen (l.map .text) = l.map .text := by
  induction l with
  | nil => rfl
  | cons s l ih => exact congrArg (Item.text s :: ·) ih

theorem Predicate.keep_sublist (predicate : Predicate) (items : List Item) :
    (predicate.keep items).Sublist items := by
  cases predicate with
  | index position =>
    rw [Predicate.keep]
    cases h : items[position - 1]? with
    | none => exact List.nil_sublist _
    | some item => exact List.singleton_sublist.2 (List.mem_of_getElem? h)
  | last =>
    rw [Predicate.keep]
    cases h : items.getLast? with
    | none => exact List.nil_sublist _
    | some item => exact List.singleton_sublist.2 (List.mem_of_getLast? h)
  | _ => exact List.filter_sublist

/-- Predicates leave items out and change nothing else. -/
theorem keepAll_sublist (predicates : List Predicate) (items : List Item) :
    (keepAll predicates items).Sublist items := by
  induction predicates generalizing items with
  | nil => exact List.Sublist.refl items
  | cons predicate predicates ih =>
    exact (ih (predicate.keep items)).trans (predicate.keep_sublist items)

/-! ### The nodes of one step -/

namespace Step

variable {step : Step} {p q : Place}

/-- A step to elements below applies its predicates parent by parent, every other step once. -/
theorem fromNode_cases (step : Step) (p : Place) :
    step.fromNode p = step.descendants p ∨
      step.fromNode p = keepAll step.predicates (step.candidates p) := by
  unfold fromNode
  split
  · exact .inl rfl
  · exact .inl rfl
  · exact .inr rfl

theorem nodes_descendants (step : Step) (p : Place) :
    ((step.descendants p).filterMap Item.node?).Sublist p.descendantElements := by
  unfold descendants
  rw [filterMap_node?_map_node]
  exact List.filter_sublist

theorem pairwise_candidates (step : Step) (p : Place) :
    ((step.candidates p).filterMap Item.node?).Pairwise fun q r => q.path < r.path := by
  have hchildren (test : Test) :
      ((childrenBy test p).filterMap Item.node?).Pairwise fun q r => q.path < r.path := by
    rw [childrenBy, filterMap_node?_map_node]
    exact (Place.lists_childElements p).2.filter _
  unfold candidates
  cases step.test with
  | label name => exact hchildren _
  | anyElement => exact hchildren _
  | self =>
    rw [filterMap_node?_map_node]
    cases step.axis with
    | child => exact List.pairwise_singleton _ _
    | descendant => exact p.pairwise_cons_descendantElements
  | parent =>
    rw [filterMap_node?_map_node]
    exact (Place.lists_parent? p).2
  | _ =>
    rw [filterMap_node?_map_text]
    exact .nil

/-- From one node a step leads to nodes in document order. -/
theorem pairwise_nodes (step : Step) (p : Place) :
    (step.nodes p).Pairwise fun q r => q.path < r.path := by
  unfold nodes
  rcases step.fromNode_cases p with h | h
  · rw [h]
    exact p.pairwise_descendantElements.sublist (step.nodes_descendants p)
  · rw [h]
    exact (step.pairwise_candidates p).sublist ((keepAll_sublist _ _).filterMap _)

theorem nodup_nodes (step : Step) (p : Place) : (step.nodes p).Nodup := by
  refine (step.pairwise_nodes p).imp ?_
  rintro q _ hlt rfl
  exact List.lt_irrefl q.path hlt

theorem tree_eq_of_mem_candidates (h : q ∈ (step.candidates p).filterMap Item.node?) :
    q.tree = p.tree := by
  have hchildren (test : Test) (h : q ∈ (childrenBy test p).filterMap Item.node?) :
      q.tree = p.tree := by
    rw [childrenBy, filterMap_node?_map_node] at h
    exact (Place.mem_childElements.1 (List.mem_of_mem_filter h)).1
  unfold candidates at h
  split at h
  · exact hchildren _ h
  · exact hchildren _ h
  · rw [filterMap_node?_map_node] at h
    cases haxis : step.axis with
    | child =>
      rw [haxis] at h
      rw [List.mem_singleton.1 h]
    | descendant =>
      rw [haxis] at h
      rcases Place.mem_cons_descendantElements.1 h with rfl | ⟨htree, -⟩
      · rfl
      · exact htree
  · rw [filterMap_node?_map_node] at h
    exact (((Place.lists_parent? p).1 q).1 h).1
  all_goals
    rw [filterMap_node?_map_text] at h
    cases h

/-- A step stays in the tree. -/
theorem tree_eq_of_mem_nodes (h : q ∈ step.nodes p) : q.tree = p.tree := by
  unfold nodes at h
  rcases step.fromNode_cases p with hfrom | hfrom
  · rw [hfrom] at h
    exact (Place.mem_descendantElements.1 ((step.nodes_descendants p).subset h)).1
  · rw [hfrom] at h
    exact tree_eq_of_mem_candidates (((keepAll_sublist _ _).filterMap _).subset h)

/-- A step whose test is about nodes leads to nodes only. -/
theorem fromNode_eq_map_nodes (h : step.test.IsOfNodes) (p : Place) :
    step.fromNode p = (step.nodes p).map .node := by
  have hmap : ∃ l : List Place, step.fromNode p = l.map .node := by
    have hcandidates : ∃ l : List Place, step.candidates p = l.map .node := by
      unfold candidates
      cases htest : step.test with
      | label name => exact ⟨_, rfl⟩
      | anyElement => exact ⟨_, rfl⟩
      | self => exact ⟨_, rfl⟩
      | parent => exact ⟨_, rfl⟩
      | _ => rw [htest] at h; exact h.elim
    rcases step.fromNode_cases p with hfrom | hfrom
    · exact ⟨_, hfrom⟩
    · obtain ⟨l, hl⟩ := hcandidates
      have hkept := keepAll_sublist step.predicates (step.candidates p)
      rw [hl, List.sublist_map_iff] at hkept
      obtain ⟨l', -, hl'⟩ := hkept
      exact ⟨l', hfrom.trans (hl ▸ hl')⟩
  obtain ⟨l, hl⟩ := hmap
  rw [nodes, hl, filterMap_node?_map_node]

end Step

/-! ### The nodes of a path -/

theorem visit_append (steps steps' : List Step) (l : List Place) :
    visit (steps ++ steps') l = visit steps' (visit steps l) := List.foldl_append

theorem visit_concat (steps : List Step) (step : Step) (l : List Place) :
    visit (steps ++ [step]) l = (visit steps l).flatMap step.nodes := visit_append steps [step] l

/-- Texts lead nowhere, so only the nodes among the items are visited. -/
theorem filterMap_node?_apply (step : Step) (items : List Item) :
    (step.apply items).filterMap Item.node? =
      (items.filterMap Item.node?).flatMap step.nodes := by
  induction items with
  | nil => rfl
  | cons item items ih =>
    rw [Step.apply] at ih ⊢
    rw [List.flatMap_cons, List.filterMap_append, ih]
    cases item with
    | node p => rfl
    | text s => rfl

theorem filterMap_node?_foldl (steps : List Step) (items : List Item) :
    (steps.foldl (fun items step => step.apply items) items).filterMap Item.node? =
      visit steps (items.filterMap Item.node?) := by
  induction steps generalizing items with
  | nil => rfl
  | cons step steps ih =>
    rw [List.foldl_cons, ih, filterMap_node?_apply]
    rfl

theorem Step.apply_of_nodes {step : Step} (h : step.test.IsOfNodes) (items : List Item) :
    step.apply items = ((items.filterMap Item.node?).flatMap step.nodes).map .node := by
  induction items with
  | nil => rfl
  | cons item items ih =>
    rw [Step.apply] at ih ⊢
    rw [List.flatMap_cons, ih]
    cases item with
    | node p =>
      have hnodes : (Item.node p :: items).filterMap Item.node? =
          p :: items.filterMap Item.node? := rfl
      rw [hnodes, List.flatMap_cons, List.map_append]
      exact congrArg (· ++ _) (step.fromNode_eq_map_nodes h p)
    | text s => rfl

/-- A path whose last step leads to nodes leads to those that it visits last. -/
theorem Path.evaluate_eq_map_visit {path : Path}
    (h : ∀ step ∈ path.steps.getLast?, step.test.IsOfNodes) (context : Place) :
    path.evaluate context = (visit path.steps [path.start context]).map .node := by
  unfold Path.evaluate
  rcases List.eq_nil_or_concat' path.steps with hnil | ⟨front, step, hsteps⟩
  · rw [hnil]
    rfl
  · have hstep : step.test.IsOfNodes := by
      refine h step ?_
      rw [hsteps, List.getLast?_concat]
      rfl
    rw [hsteps, List.foldl_append, visit_concat]
    exact (Step.apply_of_nodes hstep _).trans
      (congrArg (fun l => (l.flatMap step.nodes).map Item.node) (filterMap_node?_foldl front _))

/-- All nodes that are visited are in the tree where the path starts. -/
theorem tree_eq_of_mem_visit {steps : List Step} {l : List Place} {t : Tree}
    (hl : ∀ p ∈ l, p.tree = t) {q : Place} (hq : q ∈ visit steps l) : q.tree = t := by
  induction steps generalizing l with
  | nil => exact hl q hq
  | cons step steps ih =>
    refine ih (fun p hp => ?_) hq
    obtain ⟨m, hm, hp⟩ := List.mem_flatMap.1 hp
    exact (Step.tree_eq_of_mem_nodes hp).trans (hl m hm)

theorem tree_eq_of_mem_visit_start (steps : List Step) (start : Place) :
    ∀ p ∈ visit steps [start], p.tree = start.tree :=
  fun _ hp => tree_eq_of_mem_visit (fun _ hq => congrArg Place.tree (List.mem_singleton.1 hq)) hp

end Extraction.XPath
