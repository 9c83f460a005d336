import Extraction.Markup.Node
import Mathlib.Data.List.Sort

/-!
# Places in document order

Which places the lists of children and of descendants hold, said without the recursions that make
these lists; and lists of places in document order, of which there is one for every set of places.

## Main definitions

* `Place.IsChildOf`, `Place.IsWithin`: an element among the children of a node; a node itself or an
  element below it
* `Parts`: the ways to two places part, and the first turns to an earlier child
* `Place.Lists`: a list holds the places of a set, each once, in document order
-/

namespace Extraction.Markup

namespace Node

/-- Going down two ways is going down the first and then the second. -/
theorem at?_append (n : Node) (path rest : List Nat) :
    n.at? (path ++ rest) = (n.at? path).bind (·.at? rest) := by
  induction path generalizing n with
  | nil => rfl
  | cons i path ih =>
    rw [List.cons_append, at?, at?]
    cases n.children[i]? with
    | none => rfl
    | some c => exact ih c

/-- Whether there is an element at a place below a node. -/
def HasElementAt (n : Node) (path : List Nat) : Prop := ∃ m, n.at? path = some m ∧ m.isElement

theorem hasElementAt_cons {n : Node} {i : Nat} {rest : List Nat} :
    n.HasElementAt (i :: rest) ↔ ∃ c, n.children[i]? = some c ∧ c.HasElementAt rest := by
  simp only [HasElementAt, at?, Option.bind_eq_some_iff]
  constructor
  · rintro ⟨m, ⟨c, hc, hm⟩, he⟩
    exact ⟨c, hc, m, hm, he⟩
  · rintro ⟨c, hc, m, hm, he⟩
    exact ⟨m, ⟨c, hc, hm⟩, he⟩

theorem hasElementAt_nil {n : Node} : n.HasElementAt [] ↔ n.isElement = true := by
  simp [HasElementAt, at?]

theorem mem_elementPositions {n : Node} {i : Nat} :
    i ∈ n.elementPositions ↔ n.HasElementAt [i] := by
  rw [hasElementAt_cons, elementPositions, List.mem_filter, List.mem_range]
  constructor
  · rintro ⟨hi, he⟩
    rw [List.getElem?_eq_getElem hi] at he
    exact ⟨_, List.getElem?_eq_getElem hi, hasElementAt_nil.2 he⟩
  · rintro ⟨c, hc, he⟩
    rw [hc]
    exact ⟨(List.getElem?_eq_some_iff.1 hc).1, hasElementAt_nil.1 he⟩

mutual

/-- The places of the elements below a node are the ways down, of one position or more, that lead to
an element. -/
theorem mem_elementPlaces : (n : Node) → (path : List Nat) →
    (path ∈ n.elementPlaces ↔ path ≠ [] ∧ n.HasElementAt path)
  | .document children, path | .element _ _ children, path => by
    rw [elementPlaces, mem_placesFrom children 0 path]
    cases path with
    | nil => simp
    | cons i rest => simp [hasElementAt_cons, Node.children]
  | .text _, path | .comment _, path | .doctype _, path => by
    cases path with
    | nil => simp [elementPlaces]
    | cons i rest => simp [elementPlaces, hasElementAt_cons, Node.children]

theorem mem_placesFrom : (ns : List Node) → (i : Nat) → (path : List Nat) →
    (path ∈ placesFrom i ns ↔
      ∃ j rest c, path = (i + j) :: rest ∧ ns[j]? = some c ∧ c.HasElementAt rest)
  | [], i, path => by simp [placesFrom]
  | n :: ns, i, path => by
    have hhere : path ∈ (if n.isElement then [[i]] else []) ++ n.elementPlaces.map (i :: ·) ↔
        ∃ rest, path = i :: rest ∧ n.HasElementAt rest := by
      rw [List.mem_append, List.mem_map]
      constructor
      · rintro (h | ⟨rest, h, rfl⟩)
        · split at h
          · next he => exact ⟨[], List.mem_singleton.1 h, hasElementAt_nil.2 he⟩
          · cases h
        · exact ⟨rest, rfl, ((mem_elementPlaces n rest).1 h).2⟩
      · rintro ⟨rest, rfl, h⟩
        cases rest with
        | nil => exact .inl (by rw [if_pos (hasElementAt_nil.1 h)]; exact List.mem_singleton.2 rfl)
        | cons j rest => exact .inr ⟨_, (mem_elementPlaces n _).2 ⟨List.cons_ne_nil _ _, h⟩, rfl⟩
    rw [placesFrom, List.mem_append, hhere, mem_placesFrom ns (i + 1) path]
    constructor
    · rintro (⟨rest, rfl, h⟩ | ⟨j, rest, c, rfl, hc, h⟩)
      · exact ⟨0, rest, n, rfl, rfl, h⟩
      · exact ⟨j + 1, rest, c, by rw [Nat.add_right_comm, Nat.add_assoc], hc, h⟩
    · rintro ⟨j, rest, c, rfl, hc, h⟩
      cases j with
      | zero => cases hc; exact .inl ⟨rest, rfl, h⟩
      | succ j => exact .inr ⟨j, rest, c, by rw [Nat.add_right_comm, Nat.add_assoc], hc, h⟩

end

mutual

/-- The places of the elements below a node are listed in document order. -/
theorem pairwise_elementPlaces : (n : Node) → n.elementPlaces.Pairwise (· < ·)
  | .document children | .element _ _ children => by
    rw [elementPlaces]
    exact pairwise_placesFrom children 0
  | .text _ | .comment _ | .doctype _ => by
    rw [elementPlaces]
    exact .nil

theorem pairwise_placesFrom : (ns : List Node) → (i : Nat) →
    (placesFrom i ns).Pairwise (· < ·)
  | [], i => by
    rw [placesFrom]
    exact .nil
  | n :: ns, i => by
    have hbelow : (n.elementPlaces.map (i :: ·)).Pairwise (· < ·) :=
      List.Pairwise.map _ (fun _ _ hlt => List.cons_lt_cons_iff.2 (.inr ⟨rfl, hlt⟩))
        (pairwise_elementPlaces n)
    have hhere : ((if n.isElement then [[i]] else []) ++ n.elementPlaces.map (i :: ·)).Pairwise
        (· < ·) := by
      rw [List.pairwise_append]
      refine ⟨?_, hbelow, ?_⟩
      · split
        · exact List.pairwise_singleton _ _
        · exact .nil
      · intro path hpath rest hrest
        obtain ⟨down, hdown, rfl⟩ := List.mem_map.1 hrest
        obtain ⟨hne, -⟩ := (mem_elementPlaces n down).1 hdown
        split at hpath
        · obtain ⟨j, down, rfl⟩ := List.exists_cons_of_ne_nil hne
          rw [List.mem_singleton.1 hpath]
          exact List.cons_lt_cons_iff.2 (.inr ⟨rfl, List.nil_lt_cons _ _⟩)
        · cases hpath
    rw [placesFrom, List.pairwise_append]
    refine ⟨hhere, pairwise_placesFrom ns (i + 1), ?_⟩
    -- all that is listed of the first child begins with `i`, all the rest with a later position
    intro path hpath rest hrest
    obtain ⟨j, down, c, rfl, -⟩ := (mem_placesFrom ns (i + 1) rest).1 hrest
    have hhead : ∃ down, path = i :: down := by
      rcases List.mem_append.1 hpath with h | h
      · split at h
        · exact ⟨[], List.mem_singleton.1 h⟩
        · cases h
      · obtain ⟨down, -, rfl⟩ := List.mem_map.1 h
        exact ⟨down, rfl⟩
    obtain ⟨down, rfl⟩ := hhead
    exact List.cons_lt_cons_iff.2 (.inl (by omega))

end

end Node

/-! ### Comparing places -/

/-- The ways to two places part: at some node the first one turns to an earlier child. -/
def Parts (path rest : List Nat) : Prop :=
  ∃ common i j down down', path = common ++ i :: down ∧ rest = common ++ j :: down' ∧ i < j

/-- A place comes before those below it and before those to whose way its own parts. -/
theorem lt_iff_prefix_or_parts {path rest : List Nat} :
    path < rest ↔ (path <+: rest ∧ path ≠ rest) ∨ Parts path rest := by
  constructor
  · intro hlt
    induction path generalizing rest with
    | nil =>
      cases rest with
      | nil => exact (List.lt_irrefl _ hlt).elim
      | cons j rest => exact .inl ⟨List.nil_prefix, (List.cons_ne_nil j rest).symm⟩
    | cons i path ih =>
      cases rest with
      | nil => exact (List.not_lt_nil _ hlt).elim
      | cons j rest =>
        rcases List.cons_lt_cons_iff.1 hlt with hij | ⟨rfl, hbelow⟩
        · exact .inr ⟨[], i, j, path, rest, rfl, rfl, hij⟩
        · rcases ih hbelow with ⟨hfront, hne⟩ | ⟨common, k, l, down, down', rfl, rfl, hkl⟩
          · exact .inl ⟨List.cons_prefix_cons.2 ⟨rfl, hfront⟩,
              fun heq => hne (List.cons.inj heq).2⟩
          · exact .inr ⟨i :: common, k, l, down, down', rfl, rfl, hkl⟩
  · rintro (⟨⟨rest, rfl⟩, hne⟩ | ⟨common, i, j, down, down', rfl, rfl, hij⟩)
    · cases rest with
      | nil => exact (hne (List.append_nil path).symm).elim
      | cons j rest =>
        have hnil : ([] : List Nat) < j :: rest := List.nil_lt_cons _ _
        have happend : path ++ [] < path ++ j :: rest := List.append_left_lt hnil
        rwa [List.append_nil] at happend
    · exact List.append_left_lt (List.cons_lt_cons_iff.2 (.inl hij))

theorem lt_of_prefix_of_ne {path rest : List Nat} (h : path <+: rest) (hne : path ≠ rest) :
    path < rest := lt_iff_prefix_or_parts.2 (.inl ⟨h, hne⟩)

/-- Where two ways part, all that is below the one comes before all that is below the other. -/
theorem Parts.append_lt {path rest : List Nat} (h : Parts path rest) (down down' : List Nat) :
    path ++ down < rest ++ down' := by
  obtain ⟨common, i, j, s, t, rfl, rfl, hij⟩ := h
  refine lt_iff_prefix_or_parts.2 (.inr ⟨common, i, j, s ++ down, t ++ down', ?_, ?_, hij⟩)
  · rw [List.append_assoc, List.cons_append]
  · rw [List.append_assoc, List.cons_append]

/-- Between a place and one below it there are only places below it. -/
theorem prefix_of_lt_of_lt {path mid rest : List Nat} (hrest : path <+: rest) (hmid : path < mid)
    (hlt : mid < rest) : path <+: mid := by
  rcases lt_iff_prefix_or_parts.1 hmid with ⟨hfront, -⟩ | hparts
  · exact hfront
  · obtain ⟨down, rfl⟩ := hrest
    have hafter : path ++ down < mid ++ [] := hparts.append_lt down []
    rw [List.append_nil] at hafter
    exact (List.lt_asymm hlt hafter).elim

namespace Place

theorem eq_of_path_eq {p q : Place} (htree : p.tree = q.tree) (hpath : p.path = q.path) :
    p = q := by
  cases p
  cases q
  cases htree
  cases hpath
  rfl

/-- Whether the node is an element. -/
def IsElement (p : Place) : Prop := p.tree.top.HasElementAt p.path

/-- Whether `q` is an element among the children of `p`. -/
def IsChildOf (q p : Place) : Prop :=
  q.tree = p.tree ∧ (∃ i, q.path = p.path ++ [i]) ∧ q.IsElement

/-- Whether `q` is `p` or an element below it. -/
def IsWithin (q p : Place) : Prop :=
  q = p ∨ q.tree = p.tree ∧ p.path <+: q.path ∧ q.IsElement

theorem hasElementAt_append {p : Place} {n : Node} (hn : p.node? = some n) {rest : List Nat} :
    n.HasElementAt rest ↔ (p.withPath (p.path ++ rest)).IsElement := by
  change p.tree.top.at? p.path = some n at hn
  simp only [IsElement, Node.HasElementAt, withPath, Node.at?_append, hn, Option.bind_some]

theorem node?_isSome_of_append {p : Place} {rest : List Nat}
    (h : (p.withPath (p.path ++ rest)).IsElement) : ∃ n, p.node? = some n := by
  obtain ⟨m, hm, -⟩ := h
  change p.tree.top.at? (p.path ++ rest) = some m at hm
  rw [Node.at?_append, Option.bind_eq_some_iff] at hm
  exact ⟨hm.choose, hm.choose_spec.1⟩

theorem mem_childElements {p q : Place} : q ∈ p.childElements ↔ q.IsChildOf p := by
  constructor
  · intro h
    unfold childElements at h
    split at h
    · next n hn =>
      obtain ⟨i, hi, rfl⟩ := List.mem_map.1 h
      exact ⟨rfl, ⟨i, rfl⟩, (hasElementAt_append hn).1 (Node.mem_elementPositions.1 hi)⟩
    · cases h
  · rintro ⟨htree, ⟨i, hpath⟩, he⟩
    have hq : q = p.withPath (p.path ++ [i]) := eq_of_path_eq htree hpath
    subst hq
    obtain ⟨n, hn⟩ := node?_isSome_of_append he
    unfold childElements
    rw [hn]
    exact List.mem_map.2 ⟨i, Node.mem_elementPositions.2 ((hasElementAt_append hn).2 he), rfl⟩

theorem mem_descendantElements {p q : Place} :
    q ∈ p.descendantElements ↔
      q.tree = p.tree ∧ (∃ rest, rest ≠ [] ∧ q.path = p.path ++ rest) ∧ q.IsElement := by
  constructor
  · intro h
    unfold descendantElements at h
    split at h
    · next n hn =>
      obtain ⟨rest, hrest, rfl⟩ := List.mem_map.1 h
      obtain ⟨hne, he⟩ := (Node.mem_elementPlaces n rest).1 hrest
      exact ⟨rfl, ⟨rest, hne, rfl⟩, (hasElementAt_append hn).1 he⟩
    · cases h
  · rintro ⟨htree, ⟨rest, hne, hpath⟩, he⟩
    have hq : q = p.withPath (p.path ++ rest) := eq_of_path_eq htree hpath
    subst hq
    obtain ⟨n, hn⟩ := node?_isSome_of_append he
    unfold descendantElements
    rw [hn]
    exact List.mem_map.2
      ⟨rest, (Node.mem_elementPlaces n rest).2 ⟨hne, (hasElementAt_append hn).2 he⟩, rfl⟩

/-- A node and the elements below it are the places within it. -/
theorem mem_cons_descendantElements {p q : Place} :
    q ∈ p :: p.descendantElements ↔ q.IsWithin p := by
  rw [List.mem_cons, mem_descendantElements]
  constructor
  · rintro (rfl | ⟨htree, ⟨rest, -, hpath⟩, he⟩)
    · exact .inl rfl
    · exact .inr ⟨htree, ⟨rest, hpath.symm⟩, he⟩
  · rintro (rfl | ⟨htree, ⟨rest, hpath⟩, he⟩)
    · exact .inl rfl
    · by_cases hne : rest = []
      · rw [hne, List.append_nil] at hpath
        exact .inl (eq_of_path_eq htree hpath.symm)
      · exact .inr ⟨htree, ⟨rest, hne, hpath.symm⟩, he⟩

/-- A place within a node is reached from that node. -/
theorem IsWithin.exists_withPath {p q : Place} (h : q.IsWithin p) :
    ∃ path, q = p.withPath (p.path ++ path) := by
  rcases h with rfl | ⟨htree, ⟨path, hpath⟩, -⟩
  · exact ⟨[], eq_of_path_eq rfl (List.append_nil _).symm⟩
  · exact ⟨path, eq_of_path_eq htree hpath.symm⟩

/-- A child of a place within a node is an element below that node. -/
theorem IsChildOf.mem_descendantElements {p m q : Place} (hq : q.IsChildOf m)
    (hm : m.IsWithin p) : q ∈ p.descendantElements := by
  obtain ⟨htree, ⟨i, hpath⟩, he⟩ := hq
  rw [Place.mem_descendantElements]
  rcases hm with rfl | ⟨hmtree, ⟨rest, hrest⟩, -⟩
  · exact ⟨htree, ⟨[i], List.cons_ne_nil _ _, hpath⟩, he⟩
  · refine ⟨htree.trans hmtree, ⟨rest ++ [i], by simp, ?_⟩, he⟩
    rw [hpath, ← hrest, List.append_assoc]

/-! ### Document order -/

/-- The list holds exactly the places of a set, each once, in document order. -/
def Lists (l : List Place) (S : Place → Prop) : Prop :=
  (∀ q, q ∈ l ↔ S q) ∧ l.Pairwise fun a b => a.path < b.path

/-- There is one list of a set in document order. -/
theorem Lists.unique {l l' : List Place} {S : Place → Prop} (h : Lists l S) (h' : Lists l' S) :
    l = l' := by
  have hnodup {l : List Place} (hl : l.Pairwise fun a b => a.path < b.path) : l.Nodup := by
    refine hl.imp ?_
    rintro a _ hab rfl
    exact List.lt_irrefl a.path hab
  have hperm : l.Perm l' := (List.perm_ext_iff_of_nodup (hnodup h.2) (hnodup h'.2)).2
    fun q => (h.1 q).trans (h'.1 q).symm
  exact hperm.eq_of_pairwise (fun a b _ _ hab hba => (List.lt_asymm hab hba).elim) h.2 h'.2

/-- The children of a node stand in document order. -/
theorem lists_childElements (p : Place) : Lists p.childElements (·.IsChildOf p) := by
  refine ⟨fun q => mem_childElements, ?_⟩
  unfold childElements
  split
  · next n _ =>
    refine List.Pairwise.map _ (fun i j (hij : i < j) => ?_)
      (List.Pairwise.filter _ List.pairwise_lt_range)
    exact List.append_left_lt (List.cons_lt_cons_iff.2 (.inl hij))
  · exact .nil

/-- The elements below a node stand in document order. -/
theorem pairwise_descendantElements (p : Place) :
    p.descendantElements.Pairwise fun q r => q.path < r.path := by
  unfold descendantElements
  split
  · next n _ =>
    refine List.Pairwise.map _ (fun path rest (hlt : path < rest) => ?_) n.pairwise_elementPlaces
    exact List.append_left_lt hlt
  · exact .nil

/-- So do a node and the elements below it. -/
theorem pairwise_cons_descendantElements (p : Place) :
    (p :: p.descendantElements).Pairwise fun q r => q.path < r.path := by
  refine List.pairwise_cons.2 ⟨fun q hq => ?_, p.pairwise_descendantElements⟩
  obtain ⟨-, ⟨rest, hne, hpath⟩, -⟩ := mem_descendantElements.1 hq
  refine lt_of_prefix_of_ne ⟨rest, hpath.symm⟩ fun heq => hne ?_
  rw [hpath] at heq
  exact List.self_eq_append_right.1 heq

theorem Lists.filter {l : List Place} {S : Place → Prop} (h : Lists l S) (f : Place → Bool) :
    Lists (l.filter f) fun q => S q ∧ f q := by
  refine ⟨fun q => ?_, h.2.filter f⟩
  rw [List.mem_filter, h.1 q]

theorem lists_singleton (p : Place) : Lists [p] (· = p) :=
  ⟨fun _ => List.mem_singleton, List.pairwise_singleton _ _⟩

/-- The parent element is the one that the node stands directly below. -/
theorem lists_parent? (p : Place) :
    Lists p.parent?.toList fun q =>
      q.tree = p.tree ∧ (∃ i, p.path = q.path ++ [i]) ∧ q.IsElement := by
  refine ⟨fun q => ?_, ?_⟩
  · rw [Option.mem_toList]
    unfold parent?
    split
    · next hnil =>
      rw [hnil]
      simp
    · next j rest hcons =>
      have hlast : p.path.dropLast ++ [p.path.getLast (by rw [hcons]; exact List.cons_ne_nil _ _)] =
        p.path := List.dropLast_append_getLast _
      have helement : ((p.withPath p.path.dropLast).node?.map Node.isElement).getD false = true ↔
          (p.withPath p.path.dropLast).IsElement := by
        rw [IsElement, Node.HasElementAt]
        change (((p.withPath p.path.dropLast).tree.top.at? _).map Node.isElement).getD false = true
          ↔ _
        cases (p.withPath p.path.dropLast).tree.top.at? (p.withPath p.path.dropLast).path with
        | none => simp
        | some n => simp
      constructor
      · intro h
        dsimp only at h
        split at h
        · next he =>
          cases h
          exact ⟨rfl, ⟨_, hlast.symm⟩, helement.1 he⟩
        · cases h
      · rintro ⟨htree, ⟨i, hpath⟩, he⟩
        have hq : q = p.withPath p.path.dropLast := by
          refine eq_of_path_eq htree ?_
          rw [hpath, List.dropLast_concat]
          rfl
        subst hq
        exact if_pos (helement.2 he)
  · cases p.parent? with
    | none => exact .nil
    | some q => exact List.pairwise_singleton _ _

end Place

end Extraction.Markup
