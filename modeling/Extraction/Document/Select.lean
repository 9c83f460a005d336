import Extraction.Css.Match
import Extraction.Document.Primitive
import Extraction.Json.Path.Parser
import Extraction.Json.Reader
import Extraction.Regex.Basic
import Extraction.XPath.Parser

/-!
# Selecting by dialect

A selector is applied in its dialect to what stands before it. Plain text is read as markup or as
JSON where a dialect wants that; where the kinds do not fit, that is a failure of its own.

## Main definitions

* `Accessor`: what is read from selected elements
* `Primitive.select`: what a selector selects
-/

namespace Extraction

open Markup

/-- What is read from a selected element. -/
inductive Accessor where
  | text
  | ownText
  | textNodes
  | html
  | outerHtml
  | attribute (name : Text)
  deriving DecidableEq

namespace Accessor

/-- The accessor of a name; other names are names of attributes. -/
def ofName (name : Text) : Accessor :=
  if name = "text".toList then text
  else if name = "ownText".toList then ownText
  else if name = "textNodes".toList then textNodes
  else if name = "html".toList then html
  else if name = "all".toList ∨ name = "outerHtml".toList then outerHtml
  else .attribute name

/-- What the accessor reads from an element. -/
def read : Accessor → Place → List Text
  | text, p => [p.text]
  | ownText, p => [p.ownText]
  | textNodes, p => p.textNodes
  | html, p => [p.innerHtml]
  | outerHtml, p => [p.outerHtml]
  | .attribute name, p => (p.attribute? name).toList

end Accessor

/-- A selector of elements, and the name of the accessor after the last `@` that is outside brackets
and quotes. -/
def splitAccessor (s : Text) : Text × Option Text :=
  match Text.cutLastOutside? '@' .outside s with
  | some (css, name) => (Text.trim css, some (Text.trim name))
  | none => (Text.trim s, none)

namespace Primitive

/-- The failure of a dialect on what it does not apply to. -/
def mismatch {α : Type} (mode : Mode) (p : Primitive) : Except RuleError α :=
  .error (.backendMismatch mode p.backend)

/-- The node that selectors and paths start from: plain text is read as a fragment. -/
def place? : Primitive → Option Place
  | element p => some p
  | node p => some p
  | text s => some (parseFragment s).root
  | object _ => none

/-- What a selector of elements selects, or the accessor after it reads. -/
def selectCss (p : Primitive) (selector : Text) : Except RuleError (List Primitive) :=
  match p.place? with
  | none => mismatch .css p
  | some context => do
    let (css, accessor) := splitAccessor selector
    let places ← if css.isEmpty then pure [context] else Css.select context css
    match accessor.filter (!·.isEmpty) with
    | none => return places.map element
    | some name =>
      return ((places.flatMap (Accessor.ofName name).read).filter (!·.isEmpty)).map text

/-- What location paths lead to. -/
def selectXPath (p : Primitive) (selector : Text) : Except RuleError (List Primitive) :=
  match p.place? with
  | none => mismatch .xpath p
  | some context =>
    if Text.isBlankText selector then .ok [node context]
    else
      (XPath.select context selector).map fun items => items.map fun
        | .node q => node q
        | .text s => text s

/-- The JSON value that paths start from: plain text is read as JSON. -/
def value? : Primitive → Option Json
  | object v => some v
  | text s => Json.parse? s
  | _ => none

/-- What a path into a JSON value leads to. -/
def selectJson (p : Primitive) (selector : Text) : Except RuleError (List Primitive) :=
  match p.value? with
  | none => mismatch .json p
  | some v =>
    if Text.isBlankText selector then .ok [object v]
    else (JsonPath.select v selector).map (·.map ofScriptValue)

/-- The matches of a regular expression in the text: of each the first group, if it took part, else
the whole. -/
def selectText (p : Primitive) (selector : Text) : Except RuleError (List Primitive) :=
  if selector.isEmpty then .ok [text p.asText]
  else
    match Regex.compile? selector with
    | none => .error (.malformed selector .textPatternRejected)
    | some r => .ok ((r.findAll p.asText).map fun m => text ((m.group? 1).getD (m.group 0)))

/-- What a selector selects in a dialect. -/
def select (p : Primitive) : Mode → Text → Except RuleError (List Primitive)
  | .css, s => p.selectCss s
  | .xpath, s => p.selectXPath s
  | .json, s => p.selectJson s
  | .text, s => p.selectText s

end Primitive

end Extraction
