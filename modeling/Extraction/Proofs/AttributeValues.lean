import Extraction.Proofs.VisitedNodes
import Mathlib.Data.List.Perm.Subperm

/-!
# Values of attributes

A path to elements yields each of them once. A further step to an attribute, though, reads the value
from every node as often as the path visits it, so the values follow the elements exactly if no
element that has the attribute is visited in two ways.

## Main definitions

* `XPath.Way`: the nodes that steps lead to one after the other, from one node to another
* `XPath.Path.ReachesOnce`: no node that has an attribute is reached in two ways
-/

namespace Extraction.XPath

open Markup

/-- A way along steps from a node to another: the nodes that the steps lead to, one after the
other. -/
inductive Way : List Step → Place → List Place → Place → Prop
  | done {p : Place} : Way [] p [] p
  | next {step : Step} {steps : List Step} {p m q : Place} {way : List Place} :
      .node m ∈ step.fromNode p → Way steps m way q → Way (step :: steps) p (m :: way) q

/-- The path with a further step to an attribute. -/
def Path.attribute (path : Path) (name : Text) : Path :=
  ⟨path.absolute, path.steps ++ [⟨.child, .attribute name, []⟩]⟩

/-- No node that has the attribute is reached in two ways. -/
def Path.ReachesOnce (path : Path) (context : Place) (name : Text) : Prop :=
  ∀ q : Place, (q.attribute? name).isSome → ∀ way way',
    Way path.steps (path.start context) way q → Way path.steps (path.start context) way' q →
      way = way'

/-! ### Ways -/

/-- All ways along steps from a node, with the nodes where they end. -/
def ways : List Step → Place → List (List Place × Place)
  | [], p => [([], p)]
  | step :: steps, p =>
    (step.nodes p).flatMap fun m => (ways steps m).map fun (way, q) => (m :: way, q)

theorem mem_nodes {step : Step} {p q : Place} : q ∈ step.nodes p ↔ .node q ∈ step.fromNode p := by
  rw [Step.nodes, List.mem_filterMap]
  constructor
  · rintro ⟨item, hitem, hq⟩
    cases item with
    | node r =>
      cases hq
      exact hitem
    | text s => cases hq
  · exact fun hq => ⟨_, hq, rfl⟩

theorem mem_ways {steps : List Step} {p q : Place} {way : List Place} :
    (way, q) ∈ ways steps p ↔ Way steps p way q := by
  induction steps generalizing p way with
  | nil =>
    rw [ways, List.mem_singleton]
    constructor
    · intro h
      cases h
      exact .done
    · intro h
      cases h
      rfl
  | cons step steps ih =>
    rw [ways, List.mem_flatMap]
    constructor
    · rintro ⟨m, hm, h⟩
      obtain ⟨⟨rest, r⟩, hrest, heq⟩ := List.mem_map.1 h
      cases heq
      exact .next (mem_nodes.1 hm) (ih.1 hrest)
    · intro h
      cases h with
      | @next _ _ _ m _ rest hm hrest =>
        exact ⟨m, mem_nodes.2 hm, List.mem_map.2 ⟨(rest, q), ih.2 hrest, rfl⟩⟩

/-- Every way is listed once, as a step leads from one node to no other twice. -/
theorem nodup_ways (steps : List Step) (p : Place) : (ways steps p).Nodup := by
  induction steps generalizing p with
  | nil => exact List.nodup_singleton _
  | cons step steps ih =>
    rw [ways, List.nodup_flatMap]
    refine ⟨fun m _ => (ih m).map ?_, (step.nodup_nodes p).imp ?_⟩
    · rintro ⟨way, q⟩ ⟨way', q'⟩ heq
      cases heq
      rfl
    · intro m m' hne x hx hx'
      obtain ⟨⟨way, q⟩, -, rfl⟩ := List.mem_map.1 hx
      obtain ⟨⟨way', q'⟩, -, heq⟩ := List.mem_map.1 hx'
      exact hne (List.cons.inj (Prod.mk.inj heq).1).1.symm

theorem visit_flatMap (steps : List Step) (l : List Place) :
    visit steps l = l.flatMap fun p => visit steps [p] := by
  induction steps generalizing l with
  | nil => exact (List.flatMap_singleton' l).symm
  | cons step steps ih =>
    have hcons (l : List Place) : visit (step :: steps) l = visit steps (l.flatMap step.nodes) := rfl
    rw [hcons, ih, List.flatMap_assoc]
    refine congrArg (List.flatMap · l) (funext fun p => ?_)
    rw [hcons, List.flatMap_singleton, ← ih]

/-- A node is visited once for every way to it. -/
theorem visit_eq_map_ways (steps : List Step) (p : Place) :
    visit steps [p] = (ways steps p).map Prod.snd := by
  induction steps generalizing p with
  | nil => rfl
  | cons step steps ih =>
    have hcons : visit (step :: steps) [p] = visit steps (step.nodes p) :=
      congrArg (visit steps) (List.flatMap_singleton step.nodes p)
    rw [hcons, visit_flatMap, ways, List.map_flatMap]
    refine congrArg (List.flatMap · (step.nodes p)) (funext fun m => ?_)
    rw [ih m, List.map_map]
    rfl

/-- Among the visited nodes with a property none is visited twice exactly if none is reached in two
ways. -/
theorem nodup_filter_visit_iff {steps : List Step} {p : Place} {f : Place → Bool} :
    ((visit steps [p]).filter f).Nodup ↔
      ∀ q : Place, f q → ∀ way way', Way steps p way q → Way steps p way' q → way = way' := by
  rw [visit_eq_map_ways, List.filter_map, List.nodup_map_iff_inj_on ((nodup_ways steps p).filter _)]
  constructor
  · intro hinj q hq way way' hway hway'
    have hsame := hinj (way, q) (List.mem_filter.2 ⟨mem_ways.2 hway, hq⟩) (way', q)
      (List.mem_filter.2 ⟨mem_ways.2 hway', hq⟩) rfl
    exact (Prod.mk.inj hsame).1
  · rintro honce ⟨way, q⟩ hway ⟨way', q'⟩ hway' rfl
    obtain ⟨hway, hq⟩ := List.mem_filter.1 hway
    have hsame := honce q hq way way' (mem_ways.1 hway) (mem_ways.1 (List.mem_filter.1 hway').1)
    rw [hsame]

/-! ### Paths that reach a node once -/

/-- Whether a step goes to children by their names. -/
def Step.IsToChildren (step : Step) : Prop := step.axis = .child ∧ step.test.IsOfNames

theorem Step.isChildOf_of_mem_nodes {step : Step} (h : step.IsToChildren) {p q : Place}
    (hq : q ∈ step.nodes p) : q.IsChildOf p := by
  obtain ⟨haxis, htest⟩ := h
  have hnodes : step.nodes p =
      (keepAll step.predicates (childrenBy step.test p)).filterMap Item.node? := by
    unfold nodes fromNode candidates
    rw [haxis]
    obtain ⟨name, htest⟩ | htest := htest
    · rw [htest]
    · rw [htest]
  rw [hnodes] at hq
  have hchild := ((keepAll_sublist _ _).filterMap Item.node?).subset hq
  rw [childrenBy, filterMap_node?_map_node] at hchild
  exact Place.mem_childElements.1 (List.mem_of_mem_filter hchild)

/-- A step by a name leads below the node from which it starts. -/
theorem Step.prefix_of_mem_nodes {step : Step} (h : step.test.IsOfNames) {p q : Place}
    (hq : q ∈ step.nodes p) : p.path <+: q.path := by
  cases haxis : step.axis with
  | child =>
    obtain ⟨-, ⟨i, hpath⟩, -⟩ := isChildOf_of_mem_nodes ⟨haxis, h⟩ hq
    exact ⟨[i], hpath.symm⟩
  | descendant =>
    have hnodes : step.nodes p = (step.descendants p).filterMap Item.node? := by
      unfold nodes fromNode
      rw [haxis]
      obtain ⟨name, htest⟩ | htest := h
      · rw [htest]
      · rw [htest]
    rw [hnodes] at hq
    obtain ⟨-, ⟨rest, -, hpath⟩, -⟩ :=
      Place.mem_descendantElements.1 ((step.nodes_descendants p).subset hq)
    exact ⟨rest, hpath.symm⟩

namespace Way

variable {steps front back : List Step} {p p' q : Place} {way way' : List Place}

theorem exists_of_append (h : Way (front ++ back) p way q) :
    ∃ m u v, way = u ++ v ∧ Way front p u m ∧ Way back m v q := by
  induction front generalizing p way with
  | nil => exact ⟨p, [], way, rfl, .done, h⟩
  | cons step front ih =>
    cases h with
    | next hm hrest =>
      obtain ⟨m, u, v, rfl, hu, hv⟩ := ih hrest
      exact ⟨m, _ :: u, v, rfl, .next hm hu, hv⟩

/-- The end of a way and its steps to children determine the way. -/
theorem unique_of_children (h : ∀ step ∈ steps, step.IsToChildren) (hway : Way steps p way q)
    (hway' : Way steps p' way' q) : p = p' ∧ way = way' := by
  induction steps generalizing p p' way way' with
  | nil =>
    cases hway
    cases hway'
    exact ⟨rfl, rfl⟩
  | cons step steps ih =>
    obtain ⟨hstep, hsteps⟩ := List.forall_mem_cons.1 h
    cases hway with
    | next hm hrest =>
      cases hway' with
      | next hm' hrest' =>
        obtain ⟨rfl, rfl⟩ := ih hsteps hrest hrest'
        obtain ⟨htree, ⟨i, hpath⟩, -⟩ := Step.isChildOf_of_mem_nodes hstep (mem_nodes.2 hm)
        obtain ⟨htree', ⟨j, hpath'⟩, -⟩ := Step.isChildOf_of_mem_nodes hstep (mem_nodes.2 hm')
        have hparent : p.path = p'.path := List.append_inj_left' (hpath.symm.trans hpath') rfl
        exact ⟨Place.eq_of_path_eq (htree.symm.trans htree') hparent, rfl⟩

theorem length_of_children (h : ∀ step ∈ steps, step.IsToChildren) (hway : Way steps p way q) :
    q.tree = p.tree ∧ q.path.length = p.path.length + steps.length := by
  induction steps generalizing p way with
  | nil =>
    cases hway
    exact ⟨rfl, rfl⟩
  | cons step steps ih =>
    obtain ⟨hstep, hsteps⟩ := List.forall_mem_cons.1 h
    cases hway with
    | next hm hrest =>
      obtain ⟨htree, hlength⟩ := ih hsteps hrest
      obtain ⟨htree', ⟨i, hpath⟩, -⟩ := Step.isChildOf_of_mem_nodes hstep (mem_nodes.2 hm)
      rw [hpath, List.length_append, List.length_singleton] at hlength
      refine ⟨htree.trans htree', hlength.trans ?_⟩
      rw [List.length_cons, Nat.add_right_comm, Nat.add_assoc]

end Way

/-- Where one step at most goes to elements below and the others to children, no node is reached in
two ways. -/
theorem Path.reachesOnce_of_children {path : Path} {front back : List Step} {step : Step}
    (hpath : path.steps = front ++ step :: back) (hstep : step.test.IsOfNames)
    (hfront : ∀ step ∈ front, step.IsToChildren) (hback : ∀ step ∈ back, step.IsToChildren)
    (context : Place) (name : Text) : path.ReachesOnce context name := by
  intro q _ way way' hway hway'
  rw [hpath] at hway hway'
  obtain ⟨m, u, v, rfl, hu, hv⟩ := hway.exists_of_append
  obtain ⟨m', u', v', rfl, hu', hv'⟩ := hway'.exists_of_append
  cases hv with
  | next hn hrest =>
    cases hv' with
    | next hn' hrest' =>
      obtain ⟨rfl, rfl⟩ := Way.unique_of_children hback hrest hrest'
      -- the last nodes before the step stand at the same depth above its end
      obtain ⟨htree, hlength⟩ := hu.length_of_children hfront
      obtain ⟨htree', hlength'⟩ := hu'.length_of_children hfront
      have habove := Step.prefix_of_mem_nodes hstep (mem_nodes.2 hn)
      have habove' := Step.prefix_of_mem_nodes hstep (mem_nodes.2 hn')
      have hpaths : m.path = m'.path :=
        (List.prefix_of_prefix_length_le habove habove'
          (hlength.trans hlength'.symm).le).eq_of_length (hlength.trans hlength'.symm)
      obtain rfl : m = m' := Place.eq_of_path_eq (htree.trans htree'.symm) hpaths
      obtain ⟨-, rfl⟩ := Way.unique_of_children hfront hu hu'
      rfl

/-! ### Values -/

theorem distinct_sublist (seen : List (List Nat)) (items : List Item) :
    (distinct seen items).Sublist items := by
  induction items generalizing seen with
  | nil => exact .slnil
  | cons item items ih =>
    cases item with
    | text s => exact (ih seen).cons_cons _
    | node p =>
      rw [distinct]
      split
      · exact (ih seen).cons _
      · exact (ih _).cons_cons _

/-- A step to an attribute reads it from every node. -/
theorem apply_attribute (name : Text) (l : List Place) :
    Step.apply ⟨.child, .attribute name, []⟩ (l.map .node) =
      (l.filterMap (·.attribute? name)).map .text := by
  induction l with
  | nil => rfl
  | cons p l ih =>
    have hfrom : Step.fromNode ⟨.child, .attribute name, []⟩ p =
        ([p].filterMap (·.attribute? name)).map .text := rfl
    rw [Step.apply] at ih ⊢
    rw [List.map_cons, List.flatMap_cons, ih, ← List.singleton_append (x := p),
      List.filterMap_append, List.map_append]
    exact congrArg (· ++ _) hfrom

/-- What is read from a list is what is read from the list less its repetitions exactly if no entry
from which something is read is repeated. -/
theorem filterMap_eq_iff_nodup_filter {l l' : List Place} {f : Place → Option Text}
    (hsub : l'.Sublist l) (hnodup : l'.Nodup) (hmem : ∀ q ∈ l, q ∈ l') :
    l.filterMap f = l'.filterMap f ↔ (l.filter fun q => (f q).isSome).Nodup := by
  have hfilter (l : List Place) : l.filterMap f = (l.filter fun q => (f q).isSome).filterMap f := by
    induction l with
    | nil => rfl
    | cons q l ih =>
      rw [List.filterMap_cons, List.filter_cons]
      cases hq : f q with
      | none => exact ih
      | some v =>
        have hkeep : (if (some v).isSome then q :: l.filter fun q => (f q).isSome
            else l.filter fun q => (f q).isSome) = q :: l.filter fun q => (f q).isSome := if_pos rfl
        rw [hkeep, List.filterMap_cons, hq, ← ih]
  have hsub' : (l'.filter fun q => (f q).isSome).Sublist (l.filter fun q => (f q).isSome) :=
    hsub.filter _
  constructor
  · intro heq
    have hlength := congrArg List.length heq
    rw [List.length_filterMap_eq_countP, List.length_filterMap_eq_countP,
      List.countP_eq_length_filter, List.countP_eq_length_filter] at hlength
    rw [← hsub'.eq_of_length hlength.symm]
    exact hnodup.filter _
  · intro hl
    have hsubset : (l.filter fun q => (f q).isSome) ⊆ l'.filter fun q => (f q).isSome := by
      intro q hq
      obtain ⟨hq, hf⟩ := List.mem_filter.1 hq
      exact List.mem_filter.2 ⟨hmem q hq, hf⟩
    have hlength := (List.subperm_of_subset hl hsubset).length_le
    rw [hfilter l, hfilter l', hsub'.eq_of_length_le hlength]

/-- A path to elements with a further step to an attribute yields the values that the attribute has
on the elements of the path, in their order, exactly if no element that has the attribute is reached
in two ways. -/
theorem evaluate_attribute_iff (path : Path) (context : Place) (name : Text)
    (h : ∃ step ∈ path.steps.getLast?, step.test.IsOfNames) :
    ∃ nodes : List Place, (XPath.mk [path]).evaluate context = nodes.map .node ∧ nodes.Nodup ∧
      ((XPath.mk [path.attribute name]).evaluate context =
          (nodes.filterMap (·.attribute? name)).map .text ↔
        path.ReachesOnce context name) := by
  have hlast : ∀ step ∈ path.steps.getLast?, step.test.IsOfNodes := by
    obtain ⟨last, hlast, hnames⟩ := h
    intro step hstep
    rw [Option.mem_unique hstep hlast]
    exact hnames.isOfNodes
  have hvisit := Path.evaluate_eq_map_visit hlast context
  obtain ⟨nodes, hnodes, hnodup, hmem⟩ := distinct_map_node _
    (tree_eq_of_mem_visit_start path.steps (path.start context)) []
  have hvalues : (XPath.mk [path.attribute name]).evaluate context =
      ((visit path.steps [path.start context]).filterMap (·.attribute? name)).map .text := by
    have hsteps : (path.attribute name).evaluate context =
        Step.apply ⟨.child, .attribute name, []⟩ (path.evaluate context) := List.foldl_append
    rw [XPath.evaluate, List.flatMap_singleton, hsteps, hvisit, apply_attribute, distinct_map_text]
  have hsub : nodes.Sublist (visit path.steps [path.start context]) := by
    have hitems := distinct_sublist [] ((visit path.steps [path.start context]).map .node)
    rw [hnodes] at hitems
    have hplaces := hitems.filterMap Item.node?
    rwa [filterMap_node?_map_node, filterMap_node?_map_node] at hplaces
  refine ⟨nodes, ?_, hnodup, ?_⟩
  · rw [XPath.evaluate, List.flatMap_singleton, hvisit, hnodes]
  · rw [hvalues, List.map_inj_right fun _ _ => Item.text.inj,
      filterMap_eq_iff_nodup_filter hsub hnodup
        fun q hq => (hmem q).2 ⟨hq, List.not_mem_nil⟩]
    exact nodup_filter_visit_iff

/-- The path `//div/a` reaches the links in two `div`s, one inside the other, once each. -/
theorem evaluate_attribute_iff_directLinks :
    let link := fun value => Node.element ⟨.html, ['a']⟩ [⟨[], "href".toList, value⟩] []
    let div := fun children => Node.element ⟨.html, "div".toList⟩ [] children
    let t : Tree := ⟨.document [div [link ['x'], div [link ['y']]]], false⟩
    let path : Path := ⟨true, [⟨.descendant, .label "div".toList, []⟩, ⟨.child, .label ['a'], []⟩]⟩
    (∃ step ∈ path.steps.getLast?, step.test.IsOfNames) ∧
      ∃ nodes : List Place, (XPath.mk [path]).evaluate t.root = nodes.map .node ∧
        nodes.map Place.path = [[0, 0], [0, 1, 0]] ∧
        (XPath.mk [path.attribute "href".toList]).evaluate t.root =
          (nodes.filterMap (·.attribute? "href".toList)).map .text := by
  intro link div t path
  have hnames : ∃ step ∈ path.steps.getLast?, step.test.IsOfNames :=
    ⟨⟨.child, .label ['a'], []⟩, rfl, .inl ⟨_, rfl⟩⟩
  have hsteps : path.steps =
      [] ++ ⟨.descendant, .label "div".toList, []⟩ :: [⟨.child, .label ['a'], []⟩] := rfl
  have hchildren : ∀ step ∈ [Step.mk .child (.label ['a']) []], step.IsToChildren := by
    intro step hstep
    rw [List.mem_singleton.1 hstep]
    exact ⟨rfl, .inl ⟨_, rfl⟩⟩
  have honce : path.ReachesOnce t.root "href".toList :=
    Path.reachesOnce_of_children hsteps (.inl ⟨_, rfl⟩) nofun hchildren t.root "href".toList
  have hpaths : (((XPath.mk [path]).evaluate t.root).filterMap Item.node?).map Place.path =
      [[0, 0], [0, 1, 0]] := by
    decide +kernel
  obtain ⟨nodes, hnodes, -, hvalues⟩ := evaluate_attribute_iff path t.root "href".toList hnames
  rw [hnodes, filterMap_node?_map_node] at hpaths
  exact ⟨hnames, nodes, hnodes, hpaths, hvalues.2 honce⟩

/-- A link in a `div` within another one is reached from both by `//div//a`, so its `href` is there
twice. -/
theorem not_evaluate_attribute_nested :
    let link := Node.element ⟨.html, ['a']⟩ [⟨[], "href".toList, ['x']⟩] []
    let div := fun children => Node.element ⟨.html, "div".toList⟩ [] children
    let t : Tree := ⟨.document [div [div [link]]], false⟩
    let path : Path :=
      ⟨true, [⟨.descendant, .label "div".toList, []⟩, ⟨.descendant, .label ['a'], []⟩]⟩
    (∃ step ∈ path.steps.getLast?, step.test.IsOfNames) ∧
      ¬ ∃ nodes : List Place, (XPath.mk [path]).evaluate t.root = nodes.map .node ∧
        (XPath.mk [path.attribute "href".toList]).evaluate t.root =
          (nodes.filterMap (·.attribute? "href".toList)).map .text := by
  intro link div t path
  refine ⟨⟨⟨.descendant, .label ['a'], []⟩, rfl, .inl ⟨_, rfl⟩⟩, ?_⟩
  rintro ⟨nodes, hnodes, hvalues⟩
  have hone : ((XPath.mk [path]).evaluate t.root).length = 1 := by decide +kernel
  have htwo : ((XPath.mk [path.attribute "href".toList]).evaluate t.root).length = 2 := by
    decide +kernel
  rw [hnodes, List.length_map] at hone
  rw [hvalues, List.length_map] at htwo
  have hle := List.length_filterMap_le (·.attribute? "href".toList) nodes
  omega

end Extraction.XPath
