import Extraction.Text.Basic

/-!
# Dialects

A step of a rule is written in one of four dialects. A step may name its dialect by a hint in front
of its selector, in any letter case.
-/

namespace Extraction

/-- The dialect of a step. -/
inductive Mode where
  /-- Selectors of document elements. -/
  | css
  /-- Location paths in a document. -/
  | xpath
  /-- Paths into a JSON value. -/
  | json
  /-- Regular expressions on plain text. -/
  | text
  deriving DecidableEq

/-- What kind of value a rule is applied to. -/
inductive Backend where
  | element
  | object
  | xpathNode
  | text
  deriving DecidableEq

namespace Mode

/-- The name of a dialect. -/
def name : Mode → Text
  | css => "css".toList
  | xpath => "xpath".toList
  | json => "json".toList
  | text => "text".toList

/-- The prefix by which a step names a dialect. -/
def hint (m : Mode) : Text := '@' :: m.name ++ [':']

/-- The dialect that a selector names in front, and the selector after the hint. -/
def ofHint? (s : Text) : Option (Mode × Text) :=
  [css, xpath, json, text].findSome? fun m =>
    (Text.dropPrefixIgnoreCase? m.hint s).map (m, ·)

end Mode

/-- The name of a kind of value. -/
def Backend.name : Backend → Text
  | element => "element".toList
  | object => "object".toList
  | xpathNode => "xpath-node".toList
  | text => "text".toList

end Extraction
