import Extraction.Markup.Content
import Extraction.Proofs.TreePlaces

/-!
# Texts of trees, node by node

The texts in a node are those directly in it and directly in the elements below it, in another order.
In a tree that is well formed the document holds no text of its own and the root element holds all
other elements, so all of this is within the root.

## Main definitions

* `Node.ownTextsAt`: the texts directly in the node at a place
* `Tree.IsWellFormed`: one document, at the top, with one element and no text directly in it
-/

namespace Extraction.Markup

namespace Node

/-- Whether the node is a document. -/
def isDocument : Node → Bool
  | document _ => true
  | _ => false

/-- There is no document below the node. -/
def HoldsNoDocument (n : Node) : Prop :=
  ∀ path c, path ≠ [] → n.at? path = some c → c.isDocument = false

/-- The texts directly in a node. -/
def ownTexts (n : Node) : List Text := n.children.filterMap text?

/-- The texts directly in the node at a place below a node. -/
def ownTextsAt (n : Node) (path : List Nat) : List Text := ((n.at? path).map ownTexts).getD []

/-! ### Documents -/

theorem holdsNoDocument_iff {n : Node} :
    n.HoldsNoDocument ↔ ∀ c ∈ n.children, c.isDocument = false ∧ c.HoldsNoDocument := by
  constructor
  · intro h c hc
    obtain ⟨i, hi⟩ := List.mem_iff_getElem?.1 hc
    have hat (path : List Nat) : n.at? (i :: path) = c.at? path := by
      rw [at?, hi]
      rfl
    exact ⟨h [i] c (List.cons_ne_nil i []) (hat []),
      fun path d _ hd => h (i :: path) d (List.cons_ne_nil i path) ((hat path).trans hd)⟩
  · intro h path d hne hd
    cases path with
    | nil => exact (hne rfl).elim
    | cons i path =>
      rw [at?, Option.bind_eq_some_iff] at hd
      obtain ⟨c, hc, hd⟩ := hd
      obtain ⟨hdocument, hbelow⟩ := h c (List.mem_of_getElem? hc)
      cases path with
      | nil =>
        cases hd
        exact hdocument
      | cons j path => exact hbelow (j :: path) d (List.cons_ne_nil j path) hd

@[simp] theorem holdsNoDocument_document {children : List Node} :
    (document children).HoldsNoDocument ↔
      ∀ c ∈ children, c.isDocument = false ∧ c.HoldsNoDocument :=
  holdsNoDocument_iff

@[simp] theorem holdsNoDocument_element {name : Name} {attributes : List Attribute}
    {children : List Node} :
    (element name attributes children).HoldsNoDocument ↔
      ∀ c ∈ children, c.isDocument = false ∧ c.HoldsNoDocument :=
  holdsNoDocument_iff

@[simp] theorem holdsNoDocument_text (s : Text) : (text s).HoldsNoDocument :=
  holdsNoDocument_iff.2 nofun

theorem HoldsNoDocument.of_at? {n c : Node} (h : n.HoldsNoDocument) {path : List Nat}
    (hc : n.at? path = some c) : c.HoldsNoDocument := by
  intro rest d hne hd
  refine h (path ++ rest) d (List.append_ne_nil_of_right_ne_nil path hne) ?_
  rw [at?_append, hc]
  exact hd

/-- A node with a child that is no document is an element. -/
theorem isElement_of_children {n : Node} (h : n.children ≠ []) (hn : n.isDocument = false) :
    n.isElement = true := by
  cases n with
  | document children => cases hn
  | element name attributes children => rfl
  | text s => exact (h rfl).elim
  | comment s => exact (h rfl).elim
  | doctype name => exact (h rfl).elim

/-- On the way down to an element there are elements only. -/
theorem HoldsNoDocument.hasElementAt_head {n : Node} (h : n.HoldsNoDocument) {i : Nat}
    {rest : List Nat} (hel : n.HasElementAt (i :: rest)) : n.HasElementAt [i] := by
  obtain ⟨c, hc, hrest⟩ := hasElementAt_cons.1 hel
  refine hasElementAt_cons.2 ⟨c, hc, hasElementAt_nil.2 ?_⟩
  cases rest with
  | nil => exact hasElementAt_nil.1 hrest
  | cons j rest =>
    obtain ⟨d, hd, -⟩ := hasElementAt_cons.1 hrest
    refine isElement_of_children (List.ne_nil_of_mem (List.mem_of_getElem? hd)) ?_
    exact (holdsNoDocument_iff.1 h c (List.mem_of_getElem? hc)).1

/-! ### Texts -/

mutual

/-- The texts in a node that is not a text itself are those directly in it and directly in the
elements below it. -/
theorem texts_perm : (n : Node) → n.HoldsNoDocument → n.text? = none →
    n.texts.Perm (n.ownTexts ++ n.elementPlaces.flatMap n.ownTextsAt)
  | .document children, h, _ | .element _ _ children, h, _ => by
    rw [texts, elementPlaces]
    refine textsIn_perm children 0 _ (holdsNoDocument_iff.1 h) fun j c rest hc => ?_
    rw [Nat.zero_add, ownTextsAt, at?]
    have hchild : children[j]?.bind (at? · rest) = c.at? rest := by
      rw [hc]
      rfl
    exact congrArg (fun d => (d.map ownTexts).getD []) hchild
  | .text _, _, h => nomatch h
  | .comment _, _, _ | .doctype _, _, _ => .refl _

theorem textsIn_perm : (ns : List Node) → (i : Nat) → (own : List Nat → List Text) →
    (∀ c ∈ ns, c.isDocument = false ∧ c.HoldsNoDocument) →
    (∀ j c rest, ns[j]? = some c → own ((i + j) :: rest) = c.ownTextsAt rest) →
    (textsIn ns).Perm (ns.filterMap text? ++ (placesFrom i ns).flatMap own)
  | [], _, _, _, _ => .refl _
  | n :: ns, i, own, hns, hown => by
    obtain ⟨⟨hdocument, hn⟩, hns⟩ := List.forall_mem_cons.1 hns
    have hrest : (textsIn ns).Perm (ns.filterMap text? ++ (placesFrom (i + 1) ns).flatMap own) := by
      refine textsIn_perm ns (i + 1) own hns fun j c rest hc => ?_
      rw [Nat.add_right_comm, Nat.add_assoc]
      exact hown (j + 1) c rest hc
    have hfirst (rest : List Nat) : own (i :: rest) = n.ownTextsAt rest := hown 0 n rest rfl
    have hhere : n.texts.Perm (n.text?.toList ++
        ((if n.isElement then [[i]] else []) ++ n.elementPlaces.map (i :: ·)).flatMap own) := by
      have hn := texts_perm n hn
      cases n with
      | document children => cases hdocument
      | element name attributes children =>
        refine (hn rfl).trans (.of_eq ?_)
        have hbelow (places : List (List Nat)) : (places.map (i :: ·)).flatMap own =
            places.flatMap (ownTextsAt (.element name attributes children)) := by
          rw [List.flatMap_map]
          exact congrArg (List.flatMap · places) (funext hfirst)
        have hself : own [i] = ownTexts (.element name attributes children) := hfirst []
        show _ = own [i] ++ List.flatMap own (List.map (i :: ·) _)
        rw [hbelow, hself]
      | text s => exact .refl _
      | comment s => exact .refl _
      | doctype name => exact .refl _
    have hfilter : (n :: ns).filterMap text? = n.text?.toList ++ ns.filterMap text? := by
      rw [List.filterMap_cons]
      cases n.text? with
      | none => rfl
      | some s => rfl
    rw [textsIn, placesFrom, List.flatMap_append, hfilter, List.append_assoc]
    refine (hhere.append hrest).trans ?_
    rw [List.append_assoc]
    exact (List.perm_append_comm_assoc _ _ _).append_left _

end

theorem textsIn_eq_flatMap (ns : List Node) : textsIn ns = ns.flatMap texts := by
  induction ns with
  | nil => rfl
  | cons n ns ih => rw [textsIn, List.flatMap_cons, ih]

theorem textsIn_children_sublist (n : Node) : (textsIn n.children).Sublist n.texts := by
  cases n with
  | document children => exact .refl _
  | element name attributes children => exact .refl _
  | text s => exact List.nil_sublist _
  | comment s => exact .refl _
  | doctype name => exact .refl _

theorem filterMap_text?_sublist (ns : List Node) : (ns.filterMap text?).Sublist (textsIn ns) := by
  induction ns with
  | nil => exact .refl _
  | cons n ns ih =>
    rw [List.filterMap_cons, textsIn]
    cases n with
    | text s => exact ih.cons_cons s
    | _ => exact ih.trans (List.sublist_append_right _ _)

/-- The texts directly in a node at a place stand in their order among all texts. -/
theorem ownTextsAt_sublist (n : Node) (path : List Nat) : (n.ownTextsAt path).Sublist n.texts := by
  induction path generalizing n with
  | nil => exact (filterMap_text?_sublist n.children).trans n.textsIn_children_sublist
  | cons i path ih =>
    rw [ownTextsAt, at?]
    cases hc : n.children[i]? with
    | none => exact List.nil_sublist _
    | some c =>
      have hmem : c.texts.Sublist (textsIn n.children) := by
        rw [textsIn_eq_flatMap, List.flatMap_def]
        exact List.sublist_flatten_of_mem (List.mem_map_of_mem (List.mem_of_getElem? hc))
      exact ((ih c).trans hmem).trans n.textsIn_children_sublist

end Node

/-! ### Texts at places -/

namespace Place

theorem ownTexts_eq (p : Place) : p.ownTexts = p.tree.top.ownTextsAt p.path := by
  unfold ownTexts Node.ownTextsAt node?
  cases p.tree.top.at? p.path with
  | none => rfl
  | some n => rfl

theorem ownTexts_withPath {p : Place} {n : Node} (hn : p.node? = some n) (path : List Nat) :
    (p.withPath (p.path ++ path)).ownTexts = n.ownTextsAt path := by
  change p.tree.top.at? p.path = some n at hn
  rw [ownTexts_eq]
  unfold Node.ownTextsAt withPath
  rw [Node.at?_append, hn]
  rfl

theorem collapsed_flatMap {α : Type} (l : List α) (f : α → List Text) :
    collapsed (l.flatMap f) = l.flatMap fun a => collapsed (f a) := by
  unfold collapsed
  rw [List.map_flatMap, List.filter_flatMap]

/-- The text nodes in a node are those directly in it and directly in the elements below it. -/
theorem textNodes_perm {p : Place} (htext : p.node?.bind Node.text? = none)
    (hdocument : ∀ n ∈ p.node?, n.HoldsNoDocument) :
    p.textNodes.Perm ((p :: p.descendantElements).flatMap ownTextNodes) := by
  have hown : (p :: p.descendantElements).flatMap ownTextNodes =
      collapsed ((p :: p.descendantElements).flatMap ownTexts) := (collapsed_flatMap _ _).symm
  rw [hown]
  unfold textNodes
  cases hn : p.node? with
  | none =>
    have hself : p.ownTexts = [] := by
      unfold ownTexts
      rw [hn]
    have hbelow : p.descendantElements = [] := by
      unfold descendantElements
      rw [hn]
    rw [hbelow, List.flatMap_singleton, hself]
    exact .refl _
  | some n =>
    have hself : p.ownTexts = n.ownTexts := by
      unfold ownTexts
      rw [hn]
      rfl
    have hbelow : p.descendantElements.flatMap ownTexts =
        n.elementPlaces.flatMap n.ownTextsAt := by
      unfold descendantElements
      rw [hn, List.flatMap_map]
      exact congrArg (List.flatMap · n.elementPlaces) (funext (ownTexts_withPath hn))
    rw [hn] at htext
    rw [List.flatMap_cons, hself, hbelow]
    exact ((n.texts_perm (hdocument n hn) htext).map _).filter _

/-- The text nodes directly in a node stand in their order among those of a node that it is in. -/
theorem ownTextNodes_sublist {p q : Place} (h : q.IsWithin p) :
    q.ownTextNodes.Sublist p.textNodes := by
  obtain ⟨path, rfl⟩ := h.exists_withPath
  unfold ownTextNodes textNodes
  cases hn : p.node? with
  | none =>
    change p.tree.top.at? p.path = none at hn
    rw [ownTexts_eq]
    unfold Node.ownTextsAt withPath
    rw [Node.at?_append, hn]
    exact .refl _
  | some n =>
    rw [ownTexts_withPath hn]
    exact ((n.ownTextsAt_sublist path).map _).filter _

end Place

/-! ### Well-formed trees -/

/-- The tree has one document, at the top; directly in it are no text and one element at most. -/
structure Tree.IsWellFormed (t : Tree) : Prop where
  top : ∃ children, t.top = .document children
  below : t.top.HoldsNoDocument
  noText : t.top.ownTexts = []
  oneElement : t.top.elementPositions.length ≤ 1

namespace Tree

variable {t : Tree}

/-- The document, with the place at the top. -/
def document (t : Tree) : Place := ⟨t, []⟩

theorem IsWellFormed.holdsNoDocument (h : t.IsWellFormed) {p : Place} (hp : p.tree = t) :
    ∀ n ∈ p.node?, n.HoldsNoDocument := by
  subst hp
  intro n hn
  exact h.below.of_at? hn

/-- Where there is a root element, it is a child of the node at the top. -/
theorem exists_rootPath (h : t.rootPath ≠ []) : ∃ i, t.rootPath = [i] ∧ t.top.HasElementAt [i] := by
  unfold rootPath at h ⊢
  cases hl : t.top.elementPositions with
  | nil =>
    rw [hl] at h
    exact (h rfl).elim
  | cons i rest => exact ⟨i, rfl, Node.mem_elementPositions.1 (hl ▸ List.mem_cons_self)⟩

/-- The only element directly in the document is the root. -/
theorem IsWellFormed.rootPath_eq (h : t.IsWellFormed) {i : Nat} (hi : t.top.HasElementAt [i]) :
    t.rootPath = [i] := by
  have hmem := Node.mem_elementPositions.2 hi
  have hone : t.top.elementPositions = [i] := by
    cases hl : t.top.elementPositions with
    | nil =>
      rw [hl] at hmem
      cases hmem
    | cons j rest =>
      have hlength := h.oneElement
      rw [hl, List.length_cons] at hlength
      obtain rfl : rest = [] := List.length_eq_zero_iff.1 (by omega)
      rw [hl] at hmem
      rw [List.mem_singleton.1 hmem]
  unfold rootPath
  rw [hone]

/-- All elements of a tree are the root and those below it. -/
theorem IsWellFormed.descendantElements_document (h : t.IsWellFormed) (hroot : t.rootPath ≠ []) :
    t.document.descendantElements = t.root :: t.root.descendantElements := by
  obtain ⟨i, hpath, hi⟩ := exists_rootPath hroot
  have hrootPath : t.root.path = [i] := hpath
  have helement : t.root.IsElement := by
    show t.top.HasElementAt t.root.path
    rw [hrootPath]
    exact hi
  have hlists : Place.Lists (t.root :: t.root.descendantElements)
      (· ∈ t.document.descendantElements) := by
    refine ⟨fun q => ?_, t.root.pairwise_cons_descendantElements⟩
    show q ∈ t.root :: t.root.descendantElements ↔ q ∈ t.document.descendantElements
    rw [Place.mem_cons_descendantElements, Place.mem_descendantElements]
    constructor
    · rintro (rfl | ⟨htree, ⟨rest, hrest⟩, hq⟩)
      · exact ⟨rfl, ⟨[i], List.cons_ne_nil _ _, hrootPath⟩, helement⟩
      · rw [hrootPath] at hrest
        exact ⟨htree, ⟨i :: rest, List.cons_ne_nil _ _, hrest.symm⟩, hq⟩
    · rintro ⟨htree, ⟨path, hne, hq⟩, hel⟩
      refine .inr ⟨htree, ?_, hel⟩
      obtain ⟨j, rest, rfl⟩ := List.exists_cons_of_ne_nil hne
      have hqpath : q.path = j :: rest := hq
      -- the child of the document that `q` is or stands below is an element, so it is the root
      have hj : t.top.HasElementAt (j :: rest) := by
        change q.tree.top.HasElementAt q.path at hel
        rwa [htree, hqpath] at hel
      have hrootj : t.root.path = [j] := h.rootPath_eq (h.below.hasElementAt_head hj)
      rw [hrootj, hqpath]
      exact ⟨rest, rfl⟩
  exact (Place.Lists.unique hlists ⟨fun q => Iff.rfl, t.document.pairwise_descendantElements⟩).symm

end Tree

end Extraction.Markup
