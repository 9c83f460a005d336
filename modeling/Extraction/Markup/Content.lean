import Extraction.Markup.Node

/-!
# The text of elements

What a reader of a page sees of an element: its text with runs of blanks made one space, where
elements that stand on lines of their own are set apart by a space.

## Main definitions

* `Place.text`: all text of a node
* `Place.ownText`: the text directly in a node
* `Place.textNodes`, `Place.ownTextNodes`: the same, node by node
-/

namespace Extraction.Markup

/-- Elements that stand on lines of their own. -/
def blockLabels : List Text :=
  Text.words ("address article aside blockquote br dd div dl dt fieldset figcaption figure footer
    form h1 h2 h3 h4 h5 h6 header hr li main nav ol p pre section table td th tr ul").toList

namespace Node

mutual

/-- The text in a node, with a space before and after every element on a line of its own. -/
def flatText : Node → Text
  | .document children => flatTexts children
  | .element name _ children =>
    let edge : Text := if blockLabels.elem name.label then [' '] else []
    edge ++ flatTexts children ++ edge
  | .text s => s
  | .comment _ => []
  | .doctype _ => []

/-- The text in nodes side by side. -/
def flatTexts : List Node → Text
  | [] => []
  | n :: rest => flatText n ++ flatTexts rest

end

mutual

/-- The text nodes in a node, in document order. -/
def texts : Node → List Text
  | .document children => textsIn children
  | .element _ _ children => textsIn children
  | .text s => [s]
  | .comment _ => []
  | .doctype _ => []

/-- The text nodes in nodes side by side, in document order. -/
def textsIn : List Node → List Text
  | [] => []
  | n :: rest => texts n ++ textsIn rest

end

end Node

/-- Texts with runs of blanks made one space, those that are not empty then. -/
def collapsed (ts : List Text) : List Text := (ts.map Text.collapse).filter (!·.isEmpty)

namespace Place

/-- The text nodes directly in a node, as they stand. -/
def ownTexts (p : Place) : List Text :=
  match p.node? with
  | some n => n.children.filterMap Node.text?
  | none => []

/-- All text of a node. -/
def text (p : Place) : Text :=
  match p.node? with
  | some n => Text.collapse n.flatText
  | none => []

/-- The text directly in a node. -/
def ownText (p : Place) : Text := Text.collapse (p.ownTexts.flatMap (· ++ [' ']))

/-- The text nodes directly in a node. -/
def ownTextNodes (p : Place) : List Text := collapsed p.ownTexts

/-- The text nodes in a node. -/
def textNodes (p : Place) : List Text :=
  match p.node? with
  | some n => collapsed n.texts
  | none => []

end Place

end Extraction.Markup
