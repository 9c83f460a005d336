import Extraction.Proofs.VisitedNodes
import Mathlib.Data.List.Lex

/-!
# Results in document order

A path yields the nodes that it visits last, each at its first mention. A step to elements below finds
them in document order, whatever nodes it starts from. A step to children or to the parent takes the
nodes one by one: it finds the children of an outer node before those of a node inside it, and the
parent of an earlier node before that of a later one. So it keeps the order exactly if this is also
the order of the document.

## Main definitions

* `XPath.Path.IsOrdered`: a path yields nodes in document order
* `XPath.Step.KeepsOrder`: what the order asks of a step and the nodes from which it starts
-/

namespace Extraction.XPath

open Markup

/-- The path yields nodes in document order, none of them twice. -/
def Path.IsOrdered (path : Path) (context : Place) : Prop :=
  ∃ nodes : List Place, (XPath.mk [path]).evaluate context = nodes.map .node ∧
    nodes.Pairwise fun p q => p.path < q.path

/-- The first node stands above the second one. -/
def IsAbove (p q : Place) : Prop := p.path <+: q.path ∧ p.path ≠ q.path

/-- What the order asks of a step. Of two nodes one inside the other, the inner one leads to children
only behind all those of the outer one. Of two parents one above the other, the upper one is reached
from an earlier node. Other steps keep every order. -/
def Step.KeepsOrder (step : Step) (nodes : Set Place) : Prop :=
  match step.axis, step.test with
  | .child, .label _ | .child, .anyElement =>
    ∀ m ∈ nodes, ∀ n ∈ nodes, IsAbove m n →
      ∀ q r, step.Reaches m q → step.Reaches n r → q.path < r.path
  | .child, .parent =>
    ∀ q ∈ step.nodeSet nodes, ∀ r, IsAbove q r →
      ∀ n ∈ nodes, step.Reaches n r → ∃ m ∈ nodes, m.path < n.path ∧ step.Reaches m q
  | _, _ => True

/-! ### First mentions -/

/-- A place is mentioned in a list before every mention of another one. -/
def MentionedBefore (l : List Place) (p q : Place) : Prop := ∃ u v, l = u ++ p :: v ∧ q ∉ u

/-- The first mentions of the places in a list are in document order. -/
def FirstInOrder (l : List Place) : Prop :=
  ∀ p ∈ l, ∀ q ∈ l, p.path < q.path → MentionedBefore l p q

/-- Of a list, the first place with a property. -/
theorem exists_first {l : List Place} {S : Place → Prop} (h : ∃ m ∈ l, S m) :
    ∃ u m v, l = u ++ m :: v ∧ S m ∧ ∀ x ∈ u, ¬ S x := by
  induction l with
  | nil =>
    obtain ⟨m, hm, -⟩ := h
    cases hm
  | cons a l ih =>
    by_cases ha : S a
    · exact ⟨[], a, l, rfl, ha, fun x hx => by cases hx⟩
    · obtain ⟨m, hm, hS⟩ := h
      have hml : m ∈ l := (List.mem_cons.1 hm).resolve_left fun heq => ha (heq ▸ hS)
      obtain ⟨u, m, v, rfl, hm, hu⟩ := ih ⟨m, hml, hS⟩
      exact ⟨a :: u, m, v, rfl, hm, List.forall_mem_cons.2 ⟨ha, hu⟩⟩

namespace MentionedBefore

variable {l u v : List Place} {p q : Place}

/-- As long as the first place is not mentioned, the second one is not either. -/
theorem notMem (h : MentionedBefore (u ++ v) p q) (hp : p ∉ u) : q ∉ u := by
  obtain ⟨u', v', heq, hq⟩ := h
  rcases List.append_eq_append_iff.1 heq with ⟨w, rfl, -⟩ | ⟨w, rfl, hw⟩
  · exact fun hmem => hq (List.mem_append_left w hmem)
  · cases w with
    | nil => rwa [List.append_nil]
    | cons a w =>
      have hpa : p = a := (List.cons.inj hw).1
      exact (hp (hpa ▸ List.mem_append_right u' List.mem_cons_self)).elim

theorem asymm (h : MentionedBefore l p q) (h' : MentionedBefore l q p) : p = q := by
  obtain ⟨u, v, rfl, hq⟩ := h
  by_contra hne
  have hp : p ∉ u := h'.notMem hq
  have hq' : q ∉ u ++ [p] := by
    rw [List.mem_append, List.mem_singleton, not_or]
    exact ⟨hq, Ne.symm hne⟩
  rw [List.append_cons] at h'
  exact h'.notMem hq' (List.mem_append_right u (List.mem_singleton.2 rfl))

theorem append_left (h : MentionedBefore v p q) (hu : q ∉ u) : MentionedBefore (u ++ v) p q := by
  obtain ⟨u', v', rfl, hq⟩ := h
  refine ⟨u ++ u', v', (List.append_assoc u u' _).symm, ?_⟩
  rw [List.mem_append, not_or]
  exact ⟨hu, hq⟩

theorem append_right (h : MentionedBefore u p q) (v : List Place) :
    MentionedBefore (u ++ v) p q := by
  obtain ⟨u', v', rfl, hq⟩ := h
  exact ⟨u', v' ++ v, by rw [List.append_assoc, List.cons_append], hq⟩

/-- In document order a place is mentioned before all later ones. -/
theorem of_pairwise (h : l.Pairwise fun p q => p.path < q.path) (hp : p ∈ l)
    (hlt : p.path < q.path) : MentionedBefore l p q := by
  obtain ⟨u, v, rfl⟩ := List.append_of_mem hp
  refine ⟨u, v, rfl, fun hq => ?_⟩
  have hqp : q.path < p.path := (List.pairwise_append.1 h).2.2 q hq p List.mem_cons_self
  exact List.lt_asymm hlt hqp

end MentionedBefore

/-- What is left when repetitions are left out stands in the order of first mentions. -/
theorem pairwise_mentionedBefore {l l' : List Place} {seen : List (List Nat)}
    (h : distinct seen (l.map .node) = l'.map .node) :
    (l'.Pairwise fun p q => p.path ≠ q.path ∧ MentionedBefore l p q) ∧
      ∀ q ∈ l', q.path ∉ seen := by
  induction l generalizing l' seen with
  | nil =>
    obtain rfl : l' = [] := List.map_eq_nil_iff.1 h.symm
    exact ⟨.nil, fun q hq => by cases hq⟩
  | cons a l ih =>
    rw [List.map_cons, distinct] at h
    have hbehind {l' : List Place}
        (hl' : l'.Pairwise fun p q => p.path ≠ q.path ∧ MentionedBefore l p q)
        (ha : ∀ q ∈ l', q ≠ a) :
        l'.Pairwise fun p q => p.path ≠ q.path ∧ MentionedBefore (a :: l) p q := by
      refine hl'.imp_of_mem fun {p q} _ hq hpq => ⟨hpq.1, ?_⟩
      exact hpq.2.append_left (u := [a]) fun hqa => ha q hq (List.mem_singleton.1 hqa)
    by_cases hseen : seen.elem a.path = true
    · rw [if_pos hseen] at h
      obtain ⟨hpairs, hnot⟩ := ih h
      refine ⟨hbehind hpairs ?_, hnot⟩
      rintro q hq rfl
      exact hnot q hq (List.elem_iff.1 hseen)
    · rw [if_neg hseen] at h
      cases l' with
      | nil => cases h
      | cons b l' =>
        obtain ⟨hab, hrest⟩ := List.cons.inj h
        obtain rfl : a = b := Item.node.inj hab
        obtain ⟨hpairs, hnot⟩ := ih hrest
        have hne : ∀ q ∈ l', a.path ≠ q.path := fun q hq heq =>
          hnot q hq (heq ▸ List.mem_cons_self)
        refine ⟨List.pairwise_cons.2 ⟨fun q hq => ⟨hne q hq, [], l, rfl, List.not_mem_nil⟩,
          hbehind hpairs ?_⟩, List.forall_mem_cons.2 ⟨fun hmem => hseen (List.elem_iff.2 hmem), ?_⟩⟩
        · rintro q hq rfl
          exact hne q hq rfl
        · exact fun q hq hmem => hnot q hq (List.mem_cons_of_mem _ hmem)

/-- What is left when repetitions are left out is in document order exactly if the first mentions
are. -/
theorem pairwise_distinct_iff {l l' : List Place} {t : Tree} (hl : ∀ p ∈ l, p.tree = t)
    (h : distinct [] (l.map .node) = l'.map .node) :
    (l'.Pairwise fun p q => p.path < q.path) ↔ FirstInOrder l := by
  obtain ⟨hpairs, -⟩ := pairwise_mentionedBefore h
  have hmem : ∀ q, q ∈ l' ↔ q ∈ l := by
    obtain ⟨l'', hl'', -, hmem⟩ := distinct_map_node l hl []
    have hsame : l' = l'' :=
      List.map_injective_iff.2 (fun _ _ => Item.node.inj) (h.symm.trans hl'')
    intro q
    rw [hsame, hmem q]
    exact and_iff_left List.not_mem_nil
  constructor
  · intro hsorted p hp q hq hlt
    obtain ⟨u, v, huv⟩ := List.append_of_mem ((hmem p).2 hp)
    have hq' : q ∈ u ++ p :: v := huv ▸ (hmem q).2 hq
    rw [huv] at hsorted hpairs
    rcases List.mem_append.1 hq' with hqu | hqv
    · have hqp : q.path < p.path := (List.pairwise_append.1 hsorted).2.2 q hqu p List.mem_cons_self
      exact (List.lt_asymm hlt hqp).elim
    · rcases List.mem_cons.1 hqv with rfl | hqv
      · exact (List.lt_irrefl _ hlt).elim
      · exact ((List.pairwise_cons.1 (List.pairwise_append.1 hpairs).2.1).1 q hqv).2
  · intro hfirst
    refine hpairs.imp_of_mem fun {p q} hp hq ⟨hne, hpq⟩ => ?_
    rcases lt_or_gt_of_ne hne with hlt | hgt
    · exact hlt
    · have hqp := hfirst q ((hmem q).1 hq) p ((hmem p).1 hp) hgt
      exact (hne (congrArg Place.path (hpq.asymm hqp))).elim

/-! ### One step -/

/-- Of two nodes that a function leads to from a list in order, the earlier one is reached no later
than the later one: this is all that keeps the first mentions in order. -/
theorem firstInOrder_flatMap_iff {l : List Place} {f : Place → List Place} {t : Tree}
    (htree : ∀ m ∈ l, m.tree = t) (hl : FirstInOrder l)
    (hf : ∀ m, (f m).Pairwise fun p q => p.path < q.path) :
    FirstInOrder (l.flatMap f) ↔ ∀ n ∈ l, ∀ r ∈ f n, ∀ q ∈ l.flatMap f, q.path < r.path →
      ∃ m ∈ l, ¬ n.path < m.path ∧ q ∈ f m := by
  constructor
  · intro hfirst n hn r hr q hq hlt
    obtain ⟨u, m, v, rfl, hm, hu⟩ := exists_first (List.mem_flatMap.1 hq)
    refine ⟨m, List.mem_append_right u List.mem_cons_self, fun hnm => ?_, hm⟩
    -- `n` is mentioned before `m`, but nothing there leads to `r` before `q` is reached
    have hbefore := hfirst q hq r (List.mem_flatMap.2 ⟨n, hn, hr⟩) hlt
    rw [List.flatMap_append] at hbefore
    have hru : r ∉ u.flatMap f := by
      refine hbefore.notMem fun hqu => ?_
      obtain ⟨x, hx, hqx⟩ := List.mem_flatMap.1 hqu
      exact hu x hx hqx
    have hnm' : n ∉ u ++ [m] := by
      rw [List.mem_append, List.mem_singleton, not_or]
      refine ⟨fun hnu => hru (List.mem_flatMap.2 ⟨n, hnu, hr⟩), ?_⟩
      rintro rfl
      exact List.lt_irrefl _ hnm
    have hnbefore := hl n hn m (List.mem_append_right u List.mem_cons_self) hnm
    rw [List.append_cons] at hnbefore
    exact hnbefore.notMem hnm' (List.mem_append_right u (List.mem_singleton.2 rfl))
  · intro hearlier q hq r hr hlt
    obtain ⟨u, m, v, rfl, hm, hu⟩ := exists_first (List.mem_flatMap.1 hq)
    have hru : r ∉ u.flatMap f := by
      intro hru
      obtain ⟨x, hx, hrx⟩ := List.mem_flatMap.1 hru
      have hxl : x ∈ u ++ m :: v := List.mem_append_left _ hx
      obtain ⟨m', hm', hle, hqm'⟩ := hearlier x hxl r hrx q hq hlt
      -- the node from which `q` is reached no later than from `x` would stand before `m` as well
      by_cases hpath : m'.path = x.path
      · have hsame : m' = x :=
          Place.eq_of_path_eq ((htree m' hm').trans (htree x hxl).symm) hpath
        exact hu x hx (hsame ▸ hqm')
      · have hlt' : m'.path < x.path := (lt_or_gt_of_ne hpath).resolve_right hle
        have hm'u : m' ∉ u := fun hmem => hu m' hmem hqm'
        exact (hl m' hm' x hxl hlt').notMem hm'u hx
    rw [List.flatMap_append, List.flatMap_cons]
    exact ((MentionedBefore.of_pairwise (hf m) hm hlt).append_right _).append_left hru

/-- Of two nodes that the step leads to, the earlier one is reached from a node no later than any
from which the later one is reached. -/
def Step.ReachesInOrder (step : Step) (nodes : Set Place) : Prop :=
  ∀ n ∈ nodes, ∀ r ∈ step.nodeSet {n}, ∀ q ∈ step.nodeSet nodes, q.path < r.path →
    ∃ m ∈ nodes, ¬ n.path < m.path ∧ q ∈ step.nodeSet {m}

namespace Step

variable {step : Step} {nodes : Set Place} {m n q r : Place}

theorem mem_nodes_iff (h : step.IsNavigation) : q ∈ step.nodes m ↔ q ∈ step.nodeSet {m} := by
  obtain ⟨l, hl, hmem⟩ := step.fromNode_nodeSet h m
  rw [nodes, hl, filterMap_node?_map_node]
  exact hmem q

theorem mem_nodeSet_child (h : step.axis = .child) :
    q ∈ step.nodeSet {m} ↔ step.Reaches m q := by
  unfold nodeSet
  rw [h]
  simp

theorem mem_nodeSet_descendant (h : step.axis = .descendant) :
    q ∈ step.nodeSet {n} ↔ ∃ m : Place, m.IsWithin n ∧ step.Reaches m q := by
  unfold nodeSet
  rw [h]
  simp

theorem isChildOf_of_reaches (h : step.test.IsOfNames) (hq : step.Reaches m q) :
    q.IsChildOf m := by
  have hcandidate := isCandidate_of_reaches hq
  unfold IsCandidate at hcandidate
  obtain ⟨name, htest⟩ | htest := h
  · rw [htest] at hcandidate
    exact hcandidate.1
  · rw [htest] at hcandidate
    exact hcandidate

theorem exists_path_of_reaches (h : step.test.IsOfNames) (hq : step.Reaches m q) :
    ∃ i, q.path = m.path ++ [i] := (isChildOf_of_reaches h hq).2.1

/-- An inner node leads to children behind those of an outer one exactly if the earlier of two
children is never reached later than the other. -/
theorem keepsOrder_iff_of_child (haxis : step.axis = .child) (htest : step.test.IsOfNames) :
    step.KeepsOrder nodes ↔ step.ReachesInOrder nodes := by
  have hkeeps : step.KeepsOrder nodes ↔ ∀ m ∈ nodes, ∀ n ∈ nodes, IsAbove m n →
      ∀ q r, step.Reaches m q → step.Reaches n r → q.path < r.path := by
    unfold KeepsOrder
    rw [haxis]
    obtain ⟨name, htest⟩ | htest := htest
    · rw [htest]
    · rw [htest]
  rw [hkeeps]
  constructor
  · intro hinner n hn r hr q hq hlt
    rw [mem_nodeSet_child haxis] at hr
    obtain ⟨m, hm, hqm⟩ := mem_nodeSet_iff.1 hq
    refine ⟨m, hm, fun hnm => ?_, hqm⟩
    rw [mem_nodeSet_child haxis] at hqm
    have hrq : r.path < q.path := by
      rcases lt_iff_prefix_or_parts.1 hnm with habove | hparts
      · exact hinner n hn m hm habove r q hr hqm
      · obtain ⟨i, hi⟩ := exists_path_of_reaches htest hqm
        obtain ⟨j, hj⟩ := exists_path_of_reaches htest hr
        rw [hi, hj]
        exact hparts.append_lt [j] [i]
    exact List.lt_asymm hlt hrq
  · intro hearlier m hm n hn habove q r hq hr
    obtain ⟨i, hi⟩ := exists_path_of_reaches htest hq
    obtain ⟨j, hj⟩ := exists_path_of_reaches htest hr
    have hne : q.path ≠ r.path := by
      rw [hi, hj]
      exact fun heq => habove.2 (List.append_inj_left' heq rfl)
    refine (lt_or_gt_of_ne hne).resolve_right fun hrq => ?_
    -- the only node that leads to `r` is `n`, which comes after `m`
    obtain ⟨n', hn', hle, hr'⟩ := hearlier m hm q ((mem_nodeSet_child haxis).2 hq) r
      (mem_nodeSet_iff.2 ⟨n, hn, (mem_nodeSet_child haxis).2 hr⟩) hrq
    obtain ⟨k, hk⟩ := exists_path_of_reaches htest ((mem_nodeSet_child haxis).1 hr')
    have hpath : n'.path = n.path := List.append_inj_left' (hk.symm.trans hj) rfl
    rw [hpath] at hle
    exact hle (lt_of_prefix_of_ne habove.1 habove.2)

theorem exists_path_of_reaches_parent (h : step.test = .parent) (hq : step.Reaches m q) :
    ∃ i, m.path = q.path ++ [i] := by
  have hcandidate := isCandidate_of_reaches hq
  unfold IsCandidate at hcandidate
  rw [h] at hcandidate
  exact hcandidate.2.1

/-- An upper parent is reached earlier than a lower one exactly if the earlier of two parents is
never reached later than the other. -/
theorem keepsOrder_iff_of_parent (haxis : step.axis = .child) (htest : step.test = .parent) :
    step.KeepsOrder nodes ↔ step.ReachesInOrder nodes := by
  have hkeeps : step.KeepsOrder nodes ↔ ∀ q ∈ step.nodeSet nodes, ∀ r, IsAbove q r →
      ∀ n ∈ nodes, step.Reaches n r → ∃ m ∈ nodes, m.path < n.path ∧ step.Reaches m q := by
    unfold KeepsOrder
    rw [haxis, htest]
  rw [hkeeps]
  constructor
  · intro hupper n hn r hr q hq hlt
    rw [mem_nodeSet_child haxis] at hr
    rcases lt_iff_prefix_or_parts.1 hlt with habove | hparts
    · obtain ⟨m, hm, hmn, hqm⟩ := hupper q hq r habove n hn hr
      exact ⟨m, hm, fun hnm => List.lt_asymm hmn hnm, (mem_nodeSet_child haxis).2 hqm⟩
    · obtain ⟨m, hm, hqm⟩ := mem_nodeSet_iff.1 hq
      refine ⟨m, hm, fun hnm => ?_, hqm⟩
      obtain ⟨i, hi⟩ := exists_path_of_reaches_parent htest ((mem_nodeSet_child haxis).1 hqm)
      obtain ⟨j, hj⟩ := exists_path_of_reaches_parent htest hr
      have hmn : m.path < n.path := by
        rw [hi, hj]
        exact hparts.append_lt [i] [j]
      exact List.lt_asymm hnm hmn
  · intro hearlier q hq r habove n hn hr
    obtain ⟨m, hm, hle, hqm⟩ := hearlier n hn r ((mem_nodeSet_child haxis).2 hr) q hq
      (lt_of_prefix_of_ne habove.1 habove.2)
    rw [mem_nodeSet_child haxis] at hqm
    obtain ⟨i, hi⟩ := exists_path_of_reaches_parent htest hqm
    obtain ⟨j, hj⟩ := exists_path_of_reaches_parent htest hr
    have hne : m.path ≠ n.path := by
      rw [hi, hj]
      exact fun heq => habove.2 (List.append_inj_left' heq rfl)
    exact ⟨m, hm, (lt_or_gt_of_ne hne).resolve_right hle, hqm⟩

/-- A step to the node itself leaves out nodes and changes nothing else. -/
theorem reachesInOrder_of_self (haxis : step.axis = .child) (htest : step.test = .self) :
    step.ReachesInOrder nodes := by
  have hself {m q : Place} (hq : q ∈ step.nodeSet {m}) : q = m := by
    have hcandidate := isCandidate_of_reaches ((mem_nodeSet_child haxis).1 hq)
    unfold IsCandidate at hcandidate
    rw [htest] at hcandidate
    exact hcandidate
  intro n hn r hr q hq hlt
  obtain ⟨m, hm, hqm⟩ := mem_nodeSet_iff.1 hq
  refine ⟨m, hm, fun hnm => ?_, hqm⟩
  rw [hself hr, hself hqm] at hlt
  exact List.lt_asymm hlt hnm

/-- A node within one node is within another one too if that one stands above it. -/
theorem isWithin_of_isWithin (hq : q.IsWithin m) (htree : m.tree = n.tree)
    (hpath : n.path <+: q.path) (helement : IsAbove n m → m.IsElement) : q.IsWithin n := by
  by_cases heq : n.path = q.path
  · obtain ⟨path, rfl⟩ := hq.exists_withPath
    exact .inl (Place.eq_of_path_eq htree heq.symm)
  · rcases hq with rfl | ⟨hqtree, -, hel⟩
    · exact .inr ⟨htree, hpath, helement ⟨hpath, heq⟩⟩
    · exact .inr ⟨hqtree.trans htree, hpath, hel⟩

/-- A step to elements below leads to an element from the outermost node above it, and no node inside
that one comes before it. -/
theorem reachesInOrder_of_descendant {t : Tree} (haxis : step.axis = .descendant)
    (htest : step.test.IsOfNames) (hnodes : ∀ m ∈ nodes, m.tree = t)
    (helement : ∀ m ∈ nodes, ∀ n ∈ nodes, IsAbove m n → n.IsElement) :
    step.ReachesInOrder nodes := by
  intro n hn r hr q hq hlt
  obtain ⟨m, hm, hqm⟩ := mem_nodeSet_iff.1 hq
  by_cases hnm : n.path < m.path
  · -- `q` lies between `n` and `r`, which is below `n`, so `n` leads to `q` too
    refine ⟨n, hn, List.lt_irrefl _, ?_⟩
    rw [mem_nodeSet_descendant haxis] at hr hqm ⊢
    obtain ⟨up, hup, hreach⟩ := hr
    obtain ⟨outer, houter, hreachq⟩ := hqm
    have hwithin {p q : Place} (h : q.IsWithin p) : p.path <+: q.path := by
      obtain ⟨path, rfl⟩ := h.exists_withPath
      exact List.prefix_append p.path path
    obtain ⟨j, hj⟩ := exists_path_of_reaches htest hreach
    obtain ⟨i, hi⟩ := exists_path_of_reaches htest hreachq
    have hnr : n.path <+: r.path := hj ▸ (hwithin hup).trans (List.prefix_append _ _)
    have hmq : m.path <+: q.path := hi ▸ (hwithin houter).trans (List.prefix_append _ _)
    have hnq : n.path < q.path := by
      by_cases heq : m.path = q.path
      · exact heq ▸ hnm
      · exact List.lt_trans hnm (lt_of_prefix_of_ne hmq heq)
    have hnouter : n.path <+: outer.path := by
      have hpath := prefix_of_lt_of_lt hnr hnq hlt
      rw [hi, List.prefix_concat_iff] at hpath
      refine hpath.resolve_left fun heq => ?_
      rw [heq, ← hi] at hnq
      exact List.lt_irrefl _ hnq
    have htree : m.tree = n.tree := (hnodes m hm).trans (hnodes n hn).symm
    exact ⟨outer, isWithin_of_isWithin houter htree hnouter (helement n hn m hm), hreachq⟩
  · exact ⟨m, hm, hnm, hqm⟩

theorem keepsOrder_iff {t : Tree} (h : step.IsNavigation) (hnodes : ∀ m ∈ nodes, m.tree = t)
    (helement : ∀ m ∈ nodes, ∀ n ∈ nodes, IsAbove m n → n.IsElement) :
    step.KeepsOrder nodes ↔ step.ReachesInOrder nodes := by
  rcases h.test with hnames | ⟨haxis, hself | hparent⟩
  · cases haxis : step.axis with
    | child => exact keepsOrder_iff_of_child haxis hnames
    | descendant =>
      have hkeeps : step.KeepsOrder nodes := by
        unfold KeepsOrder
        rw [haxis]
        trivial
      exact iff_of_true hkeeps (reachesInOrder_of_descendant haxis hnames hnodes helement)
  · have hkeeps : step.KeepsOrder nodes := by
      unfold KeepsOrder
      rw [haxis, hself]
      trivial
    exact iff_of_true hkeeps (reachesInOrder_of_self haxis hself)
  · exact keepsOrder_iff_of_parent haxis hparent

/-- A step leads to elements, apart from a step to the node itself. -/
theorem isElement_of_mem_nodeSet {start : Place} (h : step.IsNavigation)
    (hnodes : (∀ p ∈ nodes, p = start) ∨ ∀ p ∈ nodes, p.IsElement) :
    (∀ p ∈ step.nodeSet nodes, p = start) ∨ ∀ p ∈ step.nodeSet nodes, p.IsElement := by
  have helement (h : ∀ m q, step.IsCandidate m q → q.IsElement) :
      ∀ p ∈ step.nodeSet nodes, p.IsElement := by
    intro p hp
    unfold nodeSet at hp
    split at hp
    · obtain ⟨m, -, hreach⟩ := hp
      exact h m p (isCandidate_of_reaches hreach)
    · obtain ⟨-, -, m, -, hreach⟩ := hp
      exact h m p (isCandidate_of_reaches hreach)
  unfold IsCandidate at helement
  rcases h.test with (⟨name, htest⟩ | htest) | ⟨haxis, htest | htest⟩
  all_goals rw [htest] at helement
  · exact .inr (helement fun m q hq => hq.1.2.2)
  · exact .inr (helement fun m q hq => hq.2.2)
  · have hself : ∀ p ∈ step.nodeSet nodes, p ∈ nodes := by
      intro p hp
      obtain ⟨m, hm, hpm⟩ := mem_nodeSet_iff.1 hp
      have hcandidate := isCandidate_of_reaches ((mem_nodeSet_child haxis).1 hpm)
      unfold IsCandidate at hcandidate
      rw [htest] at hcandidate
      exact hcandidate ▸ hm
    exact hnodes.imp (fun h p hp => h p (hself p hp)) fun h p hp => h p (hself p hp)
  · exact .inr (helement fun m q hq => hq.2.2)

end Step

/-! ### Whole paths -/

/-- The nodes that are visited are those of the node set. -/
theorem mem_visit_iff {steps : List Step} (h : ∀ step ∈ steps, step.IsNavigation)
    {l : List Place} {nodes : Set Place} (hl : ∀ q, q ∈ l ↔ q ∈ nodes) (q : Place) :
    q ∈ visit steps l ↔ q ∈ steps.foldl (fun nodes step => step.nodeSet nodes) nodes := by
  induction steps generalizing l nodes with
  | nil => exact hl q
  | cons step steps ih =>
    obtain ⟨hstep, hsteps⟩ := List.forall_mem_cons.1 h
    refine ih hsteps fun q => ?_
    rw [List.mem_flatMap, Step.mem_nodeSet_iff]
    exact exists_congr fun m => and_congr (hl m) (Step.mem_nodes_iff hstep)

/-- Of the nodes that steps lead to, one that lies inside another is an element. -/
theorem isElement_of_isAbove {steps : List Step} (h : ∀ step ∈ steps, step.IsNavigation)
    {nodes : Set Place} {start : Place} (hnodes : ∀ p ∈ nodes, p = start) :
    ∀ m ∈ steps.foldl (fun nodes step => step.nodeSet nodes) nodes,
      ∀ n ∈ steps.foldl (fun nodes step => step.nodeSet nodes) nodes,
        IsAbove m n → n.IsElement := by
  have hall : (∀ p ∈ steps.foldl (fun nodes step => step.nodeSet nodes) nodes, p = start) ∨
      ∀ p ∈ steps.foldl (fun nodes step => step.nodeSet nodes) nodes, p.IsElement := by
    have hstart : (∀ p ∈ nodes, p = start) ∨ ∀ p ∈ nodes, p.IsElement := .inl hnodes
    clear hnodes
    induction steps generalizing nodes with
    | nil => exact hstart
    | cons step steps ih =>
      obtain ⟨hstep, hsteps⟩ := List.forall_mem_cons.1 h
      exact ih hsteps (Step.isElement_of_mem_nodeSet hstep hstart)
  intro m hm n hn habove
  rcases hall with hone | hel
  · exact (habove.2 (by rw [hone m hm, hone n hn])).elim
  · exact hel n hn

/-- A path of element steps yields the nodes that it visits last, less the repetitions. -/
theorem evaluate_eq_distinct_visit {path : Path} (h : ∀ step ∈ path.steps, step.IsNavigation)
    (context : Place) :
    (XPath.mk [path]).evaluate context =
      distinct [] ((visit path.steps [path.start context]).map .node) := by
  have hlast : ∀ step ∈ path.steps.getLast?, step.test.IsOfNodes := by
    intro step hstep
    rcases (h step (List.mem_of_getLast? hstep)).test with hnames | ⟨-, hself | hparent⟩
    · exact hnames.isOfNodes
    · rw [hself]
      trivial
    · rw [hparent]
      trivial
  rw [XPath.evaluate, List.flatMap_singleton, Path.evaluate_eq_map_visit hlast]

/-- A path is in order exactly if the first mentions of the nodes that it visits last are. -/
theorem isOrdered_iff_firstInOrder {path : Path} (h : ∀ step ∈ path.steps, step.IsNavigation)
    (context : Place) :
    path.IsOrdered context ↔ FirstInOrder (visit path.steps [path.start context]) := by
  have htree := tree_eq_of_mem_visit_start path.steps (path.start context)
  unfold Path.IsOrdered
  rw [evaluate_eq_distinct_visit h]
  constructor
  · rintro ⟨nodes, hnodes, hsorted⟩
    exact (pairwise_distinct_iff htree hnodes).1 hsorted
  · intro hfirst
    obtain ⟨nodes, hnodes, -⟩ := distinct_map_node _ htree []
    exact ⟨nodes, hnodes, (pairwise_distinct_iff htree hnodes).2 hfirst⟩

/-- The places of the nodes among items. -/
def placesOf (items : List Item) : List (List Nat) :=
  items.filterMap fun item => item.node?.map Place.path

/-- Whether a path of element steps is in order is decided by the places of its results. -/
theorem isOrdered_iff_placesOf {path : Path} (h : ∀ step ∈ path.steps, step.IsNavigation)
    (context : Place) :
    path.IsOrdered context ↔
      (placesOf ((XPath.mk [path]).evaluate context)).Pairwise (· < ·) := by
  have hplaces (nodes : List Place) : placesOf (nodes.map .node) = nodes.map Place.path := by
    rw [placesOf, List.filterMap_map]
    exact congrFun List.filterMap_eq_map nodes
  constructor
  · rintro ⟨nodes, hnodes, hsorted⟩
    rw [hnodes, hplaces]
    exact List.pairwise_map.2 hsorted
  · intro hsorted
    obtain ⟨nodes, hnodes, -⟩ := distinct_map_node (visit path.steps [path.start context])
      (tree_eq_of_mem_visit_start path.steps (path.start context)) []
    rw [evaluate_eq_distinct_visit h, hnodes, hplaces] at hsorted
    exact ⟨nodes, (evaluate_eq_distinct_visit h context).trans hnodes, List.pairwise_map.1 hsorted⟩

/-- A further step keeps the order exactly if what the order asks of it holds of the nodes from which
it starts. -/
theorem firstInOrder_concat_iff {absolute : Bool} {front : List Step} {step : Step}
    {context : Place} (hfront : ∀ s ∈ front, s.IsNavigation) (hstep : step.IsNavigation)
    (horder : FirstInOrder (visit front [Path.start ⟨absolute, front⟩ context])) :
    FirstInOrder (visit (front ++ [step]) [Path.start ⟨absolute, front⟩ context]) ↔
      step.KeepsOrder (Path.nodeSet ⟨absolute, front⟩ context) := by
  have hstart : ∀ q, q ∈ [Path.start ⟨absolute, front⟩ context] ↔
      q ∈ { p | Path.StartsAt ⟨absolute, front⟩ context p } :=
    fun q => List.mem_singleton.trans Path.startsAt_iff.symm
  have hmem : ∀ q, q ∈ visit front [Path.start ⟨absolute, front⟩ context] ↔
      q ∈ Path.nodeSet ⟨absolute, front⟩ context := mem_visit_iff hfront hstart
  have htree := tree_eq_of_mem_visit_start front (Path.start ⟨absolute, front⟩ context)
  have helement : ∀ m ∈ Path.nodeSet ⟨absolute, front⟩ context,
      ∀ n ∈ Path.nodeSet ⟨absolute, front⟩ context, IsAbove m n → n.IsElement :=
    isElement_of_isAbove hfront fun p hp => Path.startsAt_iff.1 hp
  rw [visit_concat, firstInOrder_flatMap_iff htree horder step.pairwise_nodes,
    Step.keepsOrder_iff hstep (fun m hm => htree m ((hmem m).2 hm)) helement]
  unfold Step.ReachesInOrder
  have hnext : ∀ q, q ∈ (visit front [Path.start ⟨absolute, front⟩ context]).flatMap step.nodes ↔
      q ∈ step.nodeSet (Path.nodeSet ⟨absolute, front⟩ context) := by
    intro q
    rw [List.mem_flatMap, Step.mem_nodeSet_iff]
    exact exists_congr fun m => and_congr (hmem m) (Step.mem_nodes_iff hstep)
  simp only [hmem, hnext, Step.mem_nodes_iff hstep]

/-- A path of element steps and all paths at its front yield nodes in document order exactly if every
step keeps the order of the nodes from which it starts. -/
theorem isOrdered_iff_keepsOrder (path : Path) (context : Place)
    (h : ∀ step ∈ path.steps, step.IsNavigation) :
    (∀ front, front <+: path.steps → Path.IsOrdered ⟨path.absolute, front⟩ context) ↔
      ∀ front step, front ++ [step] <+: path.steps →
        step.KeepsOrder (Path.nodeSet ⟨path.absolute, front⟩ context) := by
  have hsteps {front : List Step} (hfront : front <+: path.steps) :
      ∀ step ∈ front, step.IsNavigation := fun step hstep => h step (hfront.subset hstep)
  have hstep {front : List Step} {step : Step} (hfront : front ++ [step] <+: path.steps) :
      step.IsNavigation := hsteps hfront step (List.mem_append_right front List.mem_cons_self)
  have hshorter {front : List Step} {step : Step} (hfront : front ++ [step] <+: path.steps) :
      front <+: path.steps := (List.prefix_append front [step]).trans hfront
  constructor
  · intro hordered front step hfront
    have horder := (isOrdered_iff_firstInOrder (hsteps (hshorter hfront)) context).1
      (hordered front (hshorter hfront))
    exact (firstInOrder_concat_iff (hsteps (hshorter hfront)) (hstep hfront) horder).1
      ((isOrdered_iff_firstInOrder (hsteps hfront) context).1 (hordered _ hfront))
  · intro hkeeps front hfront
    rw [isOrdered_iff_firstInOrder (hsteps hfront) context]
    induction front using List.reverseRecOn with
    | nil =>
      -- the path without steps visits its start alone
      intro p hp q hq hlt
      rw [List.mem_singleton.1 hp, List.mem_singleton.1 hq] at hlt
      exact (List.lt_irrefl _ hlt).elim
    | append_singleton front step ih =>
      have horder := ih (hshorter hfront)
      exact (firstInOrder_concat_iff (hsteps (hshorter hfront)) (hstep hfront) horder).2
        (hkeeps front step hfront)

/-- The path `//div/p` where an outer `div` has its `p` before the inner `div`. -/
theorem isOrdered_iff_keepsOrder_outerFirst :
    let p := Node.element ⟨.html, ['p']⟩ [] []
    let div := fun children => Node.element ⟨.html, "div".toList⟩ [] children
    let t : Tree := ⟨.document [div [p, div [p]]], false⟩
    let below : Step := ⟨.descendant, .label "div".toList, []⟩
    let path : Path := ⟨true, [below, ⟨.child, .label ['p'], []⟩]⟩
    (∀ step ∈ path.steps, step.IsNavigation) ∧ path.IsOrdered t.root ∧
      Step.KeepsOrder ⟨.child, .label ['p'], []⟩ (Path.nodeSet ⟨true, [below]⟩ t.root) := by
  intro p div t below path
  have h : ∀ step ∈ path.steps, step.IsNavigation := by
    simp only [path, List.forall_mem_cons, List.not_mem_nil, false_implies, implies_true, and_true]
    exact ⟨⟨.inl (.inl ⟨_, rfl⟩), nofun⟩, ⟨.inl (.inl ⟨_, rfl⟩), nofun⟩⟩
  have hordered : ∀ front, front <+: path.steps → Path.IsOrdered ⟨path.absolute, front⟩ t.root := by
    intro front hfront
    rw [isOrdered_iff_placesOf fun step hstep => h step (hfront.subset hstep)]
    have hcases : ∀ front ∈ path.steps.inits,
        (placesOf ((XPath.mk [⟨path.absolute, front⟩]).evaluate t.root)).Pairwise (· < ·) := by
      decide +kernel
    exact hcases front ((List.mem_inits _ _).2 hfront)
  exact ⟨h, hordered path.steps List.prefix_rfl,
    (isOrdered_iff_keepsOrder path t.root h).1 hordered [below] _ List.prefix_rfl⟩

/-- Where the outer `div` has its `p` behind the inner `div`, the same path yields the outer `p`
first. -/
theorem not_isOrdered_innerFirst :
    let p := Node.element ⟨.html, ['p']⟩ [] []
    let div := fun children => Node.element ⟨.html, "div".toList⟩ [] children
    let t : Tree := ⟨.document [div [div [p], p]], false⟩
    let path : Path := ⟨true, [⟨.descendant, .label "div".toList, []⟩, ⟨.child, .label ['p'], []⟩]⟩
    (∀ step ∈ path.steps, step.IsNavigation) ∧ ¬ path.IsOrdered t.root := by
  intro p div t path
  have h : ∀ step ∈ path.steps, step.IsNavigation := by
    simp only [path, List.forall_mem_cons, List.not_mem_nil, false_implies, implies_true, and_true]
    exact ⟨⟨.inl (.inl ⟨_, rfl⟩), nofun⟩, ⟨.inl (.inl ⟨_, rfl⟩), nofun⟩⟩
  refine ⟨h, ?_⟩
  rw [isOrdered_iff_placesOf h]
  decide +kernel

end Extraction.XPath
