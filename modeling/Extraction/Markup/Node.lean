import Extraction.Text.Basic

/-!
# Trees of markup

A tree of markup is a document with elements, texts and comments in it. A place in a tree is a list
of positions, each among the children of a node, from the top down; so the places of a tree in
document order are in lexicographic order.

## Main definitions

* `Markup.Node`: the nodes
* `Markup.Node.at?`: the node at a place
* `Markup.Tree`, `Markup.Place`: a tree, and a node in it together with the tree
-/

namespace Extraction.Markup

/-- The vocabulary that the name of an element belongs to. -/
inductive Space where
  | html
  | svg
  | math
  deriving DecidableEq

/-- The name of an element. -/
structure Name where
  space : Space
  label : Text
  deriving DecidableEq

/-- An attribute. Attributes of other vocabularies have a qualifier in front of their names. -/
structure Attribute where
  qualifier : Text
  name : Text
  value : Text
  deriving DecidableEq

/-- A node of a tree. A document stands at the top of it only. -/
inductive Node where
  | document (children : List Node)
  | element (name : Name) (attributes : List Attribute) (children : List Node)
  | text (s : Text)
  | comment (s : Text)
  | doctype (name : Text)

namespace Node

/-- The children of a node, in order. -/
def children : Node → List Node
  | document children => children
  | element _ _ children => children
  | _ => []

/-- Whether the node is an element. -/
def isElement : Node → Bool
  | element _ _ _ => true
  | _ => false

/-- The name of an element. -/
def name? : Node → Option Name
  | element name _ _ => some name
  | _ => none

/-- The attributes of an element. -/
def attributes : Node → List Attribute
  | element _ attributes _ => attributes
  | _ => []

/-- The text of a node that is one. -/
def text? : Node → Option Text
  | text s => some s
  | _ => none

/-- The node at a place below a node. -/
def at? : Node → List Nat → Option Node
  | n, [] => some n
  | n, i :: rest => n.children[i]?.bind (at? · rest)

mutual

/-- The places of the elements below a node, in document order. -/
def elementPlaces : Node → List (List Nat)
  | document children => placesFrom 0 children
  | element _ _ children => placesFrom 0 children
  | text _ => []
  | comment _ => []
  | doctype _ => []

/-- The places of the elements in a list of children, the first of which has position `i`. -/
def placesFrom (i : Nat) : List Node → List (List Nat)
  | [] => []
  | n :: rest =>
    (if n.isElement then [[i]] else []) ++ (elementPlaces n).map (i :: ·) ++ placesFrom (i + 1) rest

end

/-- The positions of the elements among the children of a node. -/
def elementPositions (n : Node) : List Nat :=
  (List.range n.children.length).filter fun i => (n.children[i]?.map isElement).getD false

end Node

/-- A tree: a document, and whether it was read as a fragment, which has one root for all. -/
structure Tree where
  top : Node
  isFragment : Bool

/-- A node in a tree, given by its place. -/
structure Place where
  tree : Tree
  path : List Nat

namespace Tree

/-- The place of the root element. -/
def rootPath (t : Tree) : List Nat :=
  match t.top.elementPositions with
  | i :: _ => [i]
  | [] => []

/-- The root element. -/
def root (t : Tree) : Place := ⟨t, t.rootPath⟩

end Tree

namespace Place

/-- The node at a place. -/
def node? (p : Place) : Option Node := p.tree.top.at? p.path

/-- Another place of the same tree. -/
def withPath (p : Place) (path : List Nat) : Place := ⟨p.tree, path⟩

/-- Whether the node is the root element. -/
def isRoot (p : Place) : Bool := p.path == p.tree.rootPath

/-- The node whose children are the nodes at the top: the document, or the root of a fragment. -/
def topLevel (p : Place) : Place :=
  if p.tree.isFragment then p.tree.root else p.withPath []

/-- The element name without its vocabulary; empty if the node is no element. -/
def label (p : Place) : Text :=
  match p.node?.bind Node.name? with
  | some name => name.label
  | none => []

/-- The parent element. -/
def parent? (p : Place) : Option Place :=
  match p.path with
  | [] => none
  | _ :: _ =>
    let up := p.withPath p.path.dropLast
    if (up.node?.map Node.isElement).getD false then some up else none

/-- The elements among the children, in order. -/
def childElements (p : Place) : List Place :=
  match p.node? with
  | some n => n.elementPositions.map fun i => p.withPath (p.path ++ [i])
  | none => []

/-- The elements below, in document order. -/
def descendantElements (p : Place) : List Place :=
  match p.node? with
  | some n => n.elementPlaces.map fun path => p.withPath (p.path ++ path)
  | none => []

/-- The attributes of the element. -/
def attributes (p : Place) : List Attribute :=
  match p.node? with
  | some n => n.attributes
  | none => []

/-- The value of an attribute. -/
def attribute? (p : Place) (name : Text) : Option Text :=
  (p.attributes.find? fun a => a.qualifier.isEmpty && a.name == name).map Attribute.value

/-- The values of all attributes. -/
def attributeValues (p : Place) : List Text := p.attributes.map Attribute.value

end Place

end Extraction.Markup
