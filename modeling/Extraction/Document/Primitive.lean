import Extraction.Json.Printer
import Extraction.Json.Reader
import Extraction.Markup.Content
import Extraction.Markup.Parser
import Extraction.Markup.Printer
import Extraction.Rule.Mode

/-!
# What rules are applied to

A rule is applied to an element, to a node that location paths address, to a JSON value or to plain
text; and what it selects is again of these kinds.

## Main definitions

* `Primitive`: the kinds
* `Document`: a source document, which is one of them
-/

namespace Extraction

open Markup

/-- What a rule is applied to, and what it selects. -/
inductive Primitive where
  | element (p : Place)
  | object (v : Json)
  | node (p : Place)
  | text (s : Text)

namespace Primitive

/-- The kind of value that it is. -/
def backend : Primitive → Backend
  | element _ => .element
  | object _ => .object
  | node _ => .xpathNode
  | text _ => .text

/-- The dialect that fits it best. -/
def mode : Primitive → Mode
  | element _ => .css
  | object _ => .json
  | node _ => .xpath
  | text _ => .text

/-- Its text: of a node all text, of a JSON value its plain text. -/
def asText : Primitive → Text
  | element p => p.text
  | node p => p.text
  | object v => v.plainText
  | text s => s

/-- Whether there is nothing in it. -/
def isEmpty : Primitive → Bool
  | element p => p.isBlank
  | node p => p.isBlank
  | object v => v.isEmpty
  | text s => Text.isBlankText s

/-- The value that scripts see it as: of a node its markup. -/
def toScriptValue : Primitive → Json
  | element p => .str p.outerHtml
  | node p => .str p.outerHtml
  | object v => v
  | text s => .str s

/-- What a value is: a string is plain text, all else a JSON value. -/
def ofScriptValue : Json → Primitive
  | .str s => text s
  | v => object v

end Primitive

/-- A source document, and whether its source is empty. -/
structure Document where
  primitive : Primitive
  isSourceEmpty : Bool

namespace Document

/-- A page whose elements are selected. -/
def ofHtml (s : Text) : Document := ⟨.element (parseDocument s).root, Text.isBlankText s⟩

/-- A page whose nodes are addressed by location paths. -/
def ofHtmlForPaths (s : Text) : Document := ⟨.node (parseDocument s).root, Text.isBlankText s⟩

/-- A document that is something selected from another, or a value. -/
def ofPrimitive (p : Primitive) : Document := ⟨p, p.isEmpty⟩

/-- The JSON value that a text writes; a blank text counts as an empty source. -/
def ofJson? (s : Text) : Option Document :=
  if Text.isBlankText s then some ⟨.object .null, true⟩
  else (Json.parse? s).map fun v => ofPrimitive (.object v)

/-- Plain text. -/
def ofText (s : Text) : Document := ofPrimitive (.text s)

end Document

end Extraction
