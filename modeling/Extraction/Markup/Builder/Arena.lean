import Extraction.Markup.Node

/-!
# A tree under construction

While a tree is built its nodes are kept in a table and name each other by their numbers, so that
they can be moved about. In the end the table is read off as a tree.

## Main definitions

* `Markup.Arena`: the table
* `Markup.Arena.freeze`: the tree below a node
-/

namespace Extraction.Markup

/-- What a node under construction is. -/
inductive Content where
  | document
  | element (name : Name) (attributes : List Attribute)
  | text (s : Text)
  | comment (s : Text)
  | doctype (name : Text)

/-- A node under construction: what it is, the number of its parent and those of its children. -/
structure Cell where
  content : Content
  parent : Option Nat
  children : List Nat

/-- The table of the nodes under construction. -/
structure Arena where
  cells : Array Cell

namespace Arena

/-- The node of a number; an unused number gives an empty document. -/
def get (a : Arena) (i : Nat) : Cell := (a.cells[i]?).getD ⟨.document, none, []⟩

/-- The table with one node changed. -/
def update (a : Arena) (i : Nat) (f : Cell → Cell) : Arena :=
  ⟨a.cells.setIfInBounds i (f (a.get i))⟩

/-- The table with a new node that has no parent, and its number. -/
def create (a : Arena) (content : Content) : Nat × Arena :=
  (a.cells.size, ⟨a.cells.push ⟨content, none, []⟩⟩)

/-- The table with a node taken from its parent. -/
def detach (a : Arena) (i : Nat) : Arena :=
  match (a.get i).parent with
  | none => a
  | some p =>
    (a.update p fun c => ⟨c.content, c.parent, c.children.filter (· != i)⟩).update i
      fun c => ⟨c.content, none, c.children⟩

/-- The table with a node made the last child of another. -/
def append (a : Arena) (parent i : Nat) : Arena :=
  ((a.detach i).update parent fun c => ⟨c.content, c.parent, c.children ++ [i]⟩).update i
    fun c => ⟨c.content, some parent, c.children⟩

/-- The table with a node put just before another, which has a parent. -/
def insertBefore (a : Arena) (sibling i : Nat) : Arena :=
  match (a.get sibling).parent with
  | none => a
  | some p =>
    ((a.detach i).update p fun c =>
      ⟨c.content, c.parent, c.children.flatMap fun j => if j = sibling then [i, j] else [j]⟩).update i
        fun c => ⟨c.content, some p, c.children⟩

/-- The table with a text added at the end of a text node, if the node is one. -/
def extendText? (a : Arena) (i : Nat) (s : Text) : Option Arena :=
  match (a.get i).content with
  | .text t => some (a.update i fun c => ⟨.text (t ++ s), c.parent, c.children⟩)
  | _ => none

/-- The table with a text added at the end of a node. Texts side by side are one text. -/
def appendText (a : Arena) (parent : Nat) (s : Text) : Arena :=
  match (a.get parent).children.getLast?.bind fun i => a.extendText? i s with
  | some a => a
  | none =>
    let (i, a) := a.create (.text s)
    a.append parent i

/-- The child just before another among the children of its parent. -/
def previous? (a : Arena) (sibling : Nat) : Option Nat :=
  (a.get sibling).parent.bind fun p => ((a.get p).children.takeWhile (· != sibling)).getLast?

/-- The table with a text put just before a node. -/
def insertTextBefore (a : Arena) (sibling : Nat) (s : Text) : Arena :=
  match (a.previous? sibling).bind fun i => a.extendText? i s with
  | some a => a
  | none =>
    let (i, a) := a.create (.text s)
    a.insertBefore sibling i

/-- The table with the children of one node made the last children of another. -/
def moveChildren (a : Arena) (source target : Nat) : Arena :=
  (a.get source).children.foldl (fun a i => a.append target i) a

/-- The name of an element. -/
def name? (a : Arena) (i : Nat) : Option Name :=
  match (a.get i).content with
  | .element name _ => some name
  | _ => none

/-- The attributes of an element. -/
def attributes (a : Arena) (i : Nat) : List Attribute :=
  match (a.get i).content with
  | .element _ attributes => attributes
  | _ => []

/-- The table with those attributes added to an element whose names it lacks. -/
def addAttributes (a : Arena) (i : Nat) (added : List Attribute) : Arena :=
  a.update i fun c =>
    match c.content with
    | .element name attributes =>
      let fresh := added.filter fun x =>
        !attributes.any fun y => y.qualifier == x.qualifier && y.name == x.name
      ⟨.element name (attributes ++ fresh), c.parent, c.children⟩
    | _ => c

/-- The order of attributes: by name, those with a qualifier last. -/
def attributeBefore (x y : Attribute) : Bool :=
  let rank (a : Attribute) : Nat :=
    if a.qualifier.isEmpty then 0 else if a.qualifier == a.name then 1 else 2
  if rank x ≠ rank y then rank x < rank y
  else !Text.before (y.qualifier ++ ':' :: y.name) (x.qualifier ++ ':' :: x.name)

/-- The tree below a node. The depth is at most the number of nodes. -/
def freeze (a : Arena) : (depth : Nat) → Nat → Node
  | 0, _ => .document []
  | depth + 1, i =>
    let c := a.get i
    let children := c.children.map (freeze a depth)
    match c.content with
    | .document => .document children
    | .element name attributes => .element name (attributes.mergeSort attributeBefore) children
    | .text s => .text s
    | .comment s => .comment s
    | .doctype name => .doctype name

end Arena

end Extraction.Markup
