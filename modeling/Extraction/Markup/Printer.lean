import Extraction.Markup.Node

/-!
# Writing markup

Trees as text. Texts and values of attributes are written with references where they would be read
as something else. The text of elements that are read raw is written as it stands, and elements that
have no content are written without an end tag.

## Main definitions

* `Markup.Place.outerHtml`, `Markup.Place.innerHtml`: an element, and what is in it, as text
-/

namespace Extraction.Markup

/-- A text with references where it would be read as something else. -/
def escapeText (s : Text) : Text :=
  s.flatMap fun c =>
    if c = '&' then "&amp;".toList
    else if c.toNat = 0xA0 then "&nbsp;".toList
    else if c = '<' then "&lt;".toList
    else if c = '>' then "&gt;".toList
    else [c]

/-- A value of an attribute with references where it would be read as something else. -/
def escapeValue (s : Text) : Text :=
  s.flatMap fun c =>
    if c = '&' then "&amp;".toList
    else if c.toNat = 0xA0 then "&nbsp;".toList
    else if c = '"' then "&quot;".toList
    else [c]

/-- Elements that have no content. -/
def voidLabels : List Text :=
  Text.words ("area base basefont bgsound br col embed frame hr img input keygen link meta param
    source track wbr").toList

/-- Elements whose text is written as it stands. -/
def rawLabels : List Text :=
  Text.words "style script xmp iframe noembed noframes plaintext".toList

/-- Whether an element of this name has no content. -/
def Name.isVoid (n : Name) : Bool := n.space == .html && voidLabels.elem n.label

/-- Whether the text of an element of this name is written as it stands. -/
def Name.isRaw (n : Name) : Bool := n.space == .html && rawLabels.elem n.label

/-- An attribute, with the blank before it. -/
def Attribute.toText (a : Attribute) : Text :=
  let qualifier := if a.qualifier.isEmpty || a.qualifier == a.name then [] else a.qualifier ++ [':']
  ' ' :: qualifier ++ a.name ++ ['=', '"'] ++ escapeValue a.value ++ ['"']

mutual

/-- A node as text; `isRaw` says whether it stands in an element whose text is written as it is. -/
def Node.toText (isRaw : Bool) : Node → Text
  | .document children => nodesText false children
  | .element name attributes children =>
    '<' :: name.label ++ attributes.flatMap Attribute.toText ++ ['>'] ++
      (if name.isVoid then []
        else nodesText name.isRaw children ++ ['<', '/'] ++ name.label ++ ['>'])
  | .text s => if isRaw then s else escapeText s
  | .comment s => "<!--".toList ++ s ++ "-->".toList
  | .doctype name => "<!DOCTYPE ".toList ++ name ++ ['>']

/-- Nodes side by side as text. -/
def nodesText (isRaw : Bool) : List Node → Text
  | [] => []
  | n :: rest => n.toText isRaw ++ nodesText isRaw rest

end

namespace Place

/-- The element as text; empty if the node is no element. -/
def outerHtml (p : Place) : Text :=
  match p.node? with
  | some n => if n.isElement then n.toText false else []
  | none => []

/-- What is in the element as text; empty if the node is no element. The texts directly in it are
written with references whatever the element. -/
def innerHtml (p : Place) : Text :=
  match p.node? with
  | some (.element _ _ children) => nodesText false children
  | _ => []

/-- Whether there is nothing in the element but blanks, and it has no attributes. -/
def isBlank (p : Place) : Bool := Text.isBlankText p.innerHtml && p.attributes.isEmpty

end Place

end Extraction.Markup
