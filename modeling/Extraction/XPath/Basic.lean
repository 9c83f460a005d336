import Extraction.Markup.Content

/-!
# Location paths

A location path leads from a node to others, to texts or to values of attributes, step by step. A
step goes to children or descendants, keeps those that pass a test, and filters them by predicates;
positions are counted among the children of one parent.

## Main definitions

* `XPath`: a union of location paths
* `XPath.Item`: what a path leads to
* `XPath.evaluate`: what a path leads to from a node
-/

namespace Extraction

namespace XPath

open Markup

/-- Where a step goes from a node. -/
inductive Axis where
  | child
  | descendant
  deriving DecidableEq

/-- What a step leads to. -/
inductive Test where
  | label (name : Text)
  | anyElement
  | text
  | attribute (name : Text)
  | anyAttribute
  | self
  | parent
  deriving DecidableEq

/-- What a step keeps of that. -/
inductive Predicate where
  /-- The item at this position, counted from one. -/
  | index (position : Nat)
  | last
  | hasAttribute (name : Text)
  | attributeIs (name value : Text)
  | attributeContains (name part : Text)
  | textIs (value : Text)
  | textContains (part : Text)
  deriving DecidableEq

/-- A step. -/
structure Step where
  axis : Axis
  test : Test
  predicates : List Predicate
  deriving DecidableEq

/-- A location path. One that begins with a slash starts at the top where its context is the root. -/
structure Path where
  absolute : Bool
  steps : List Step
  deriving DecidableEq

/-- What a path leads to. -/
inductive Item where
  | node (p : Place)
  | text (s : Text)

namespace Item

/-- The text of an item: all text of a node. -/
def asText : Item → Text
  | node p => p.text
  | text s => s

/-- The node of an item that is one. -/
def node? : Item → Option Place
  | node p => some p
  | text _ => none

end Item

/-! ### Predicates -/

/-- Whether a node passes a predicate; positions are left to `Predicate.keep`. -/
def Predicate.holds : Predicate → Place → Bool
  | hasAttribute name, p => (p.attribute? name).isSome
  | attributeIs name value, p => p.attribute? name == some value
  | attributeContains name part, p =>
    match p.attribute? name with
    | some v => Text.includes v part
    | none => false
  | textIs value, p => p.ownText == Text.collapse value
  | textContains part, p => Text.includes p.text part
  | index _, _ => true
  | last, _ => true

/-- The items that a predicate keeps. Texts pass by their positions only. -/
def Predicate.keep : Predicate → List Item → List Item
  | index position, items => (items[position - 1]?).toList
  | last, items => items.getLast?.toList
  | predicate, items => items.filter fun
    | .node p => predicate.holds p
    | .text _ => false

/-- The items that all predicates keep, one after the other. -/
def keepAll (predicates : List Predicate) (items : List Item) : List Item :=
  predicates.foldl (fun items predicate => predicate.keep items) items

/-! ### Steps -/

/-- Whether an element passes a test of its name. -/
def Test.holds : Test → Place → Bool
  | label name, p => Text.eqIgnoreCase p.label name
  | anyElement, _ => true
  | _, _ => false

/-- The children elements that pass a test of their names. -/
def childrenBy (test : Test) (p : Place) : List Item := (p.childElements.filter test.holds).map .node

/-- A node and the elements below it. -/
def withDescendants (p : Place) : List Place := p :: p.descendantElements

/-- The nodes that a step looks at for texts and attributes. -/
def owners : Axis → Place → List Place
  | .child, p => [p]
  | .descendant, p => withDescendants p

/-- What a step may keep, from one node. -/
def Step.candidates (step : Step) (p : Place) : List Item :=
  match step.test with
  | .label _ | .anyElement => childrenBy step.test p
  | .self => (owners step.axis p).map .node
  | .parent => p.parent?.toList.map .node
  | .text =>
    (match step.axis with
      | .child => p.ownTextNodes
      | .descendant => p.textNodes).map .text
  | .attribute name => ((owners step.axis p).filterMap (·.attribute? name)).map .text
  | .anyAttribute => ((owners step.axis p).flatMap (·.attributeValues)).map .text

/-- The elements below a node that a test keeps, where the predicates are applied among the children
of each parent. -/
def Step.descendants (step : Step) (p : Place) : List Item :=
  let kept := (withDescendants p).flatMap fun parent =>
    (keepAll step.predicates (childrenBy step.test parent)).filterMap Item.node?
  (p.descendantElements.filter fun q => kept.any (·.path == q.path)).map .node

/-- What a step leads to from one node. -/
def Step.fromNode (step : Step) (p : Place) : List Item :=
  match step.axis, step.test with
  | .descendant, .label _ | .descendant, .anyElement => step.descendants p
  | _, _ => keepAll step.predicates (step.candidates p)

/-- What a step leads to. Texts lead nowhere. -/
def Step.apply (step : Step) (items : List Item) : List Item :=
  items.flatMap fun
    | .node p => step.fromNode p
    | .text _ => []

/-! ### Paths -/

/-- Where a path starts. -/
def Path.start (path : Path) (context : Place) : Place :=
  if path.absolute && context.isRoot then context.topLevel else context

/-- What a path leads to. -/
def Path.evaluate (path : Path) (context : Place) : List Item :=
  path.steps.foldl (fun items step => step.apply items) [.node (path.start context)]

/-- The items, less the nodes that are there before; `seen` are the places of those left out from the
start. -/
def distinct (seen : List (List Nat)) : List Item → List Item
  | [] => []
  | .node p :: rest =>
    if seen.elem p.path then distinct seen rest
    else .node p :: distinct (p.path :: seen) rest
  | .text s :: rest => .text s :: distinct seen rest

end XPath

/-- A union of location paths. -/
structure XPath where
  paths : List XPath.Path
  deriving DecidableEq

namespace XPath

/-- What the paths lead to, one after the other; a node counts once. -/
def evaluate (x : XPath) (context : Markup.Place) : List Item :=
  distinct [] (x.paths.flatMap (·.evaluate context))

end XPath

end Extraction
