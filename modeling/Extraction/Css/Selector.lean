import Extraction.Text.Basic

/-!
# Selectors of elements

What a selector says of an element: tests on the element itself, and the elements it stands in or
after.

## Main definitions

* `Css.Simple`: a test on one element
* `Css.Complex`: tests on an element and on those around it
-/

namespace Extraction.Css

/-- How an element stands to the one that a selector names before it. -/
inductive Combinator where
  | descendant
  | child
  | next
  | later
  deriving DecidableEq

/-- How a value is compared with the one that a selector names. -/
inductive Comparison where
  | equal
  /-- One of its words is equal. -/
  | word
  /-- It is equal up to a hyphen. -/
  | dash
  | start
  | finish
  | part
  deriving DecidableEq

/-- Whether capitals and small letters are told apart in a value. -/
inductive CaseRule where
  | exact
  | ignored
  /-- They are not told apart in elements of markup's own vocabulary. -/
  | ignoredInHtml
  deriving DecidableEq

/-- What a selector wants of the value of an attribute. -/
structure ValueTest where
  comparison : Comparison
  value : Text
  caseRule : CaseRule

mutual

/-- A test on one element. -/
inductive Simple where
  /-- The name, whatever the vocabulary. -/
  | label (name : Text)
  | id (value : Text)
  | hasClass (value : Text)
  | hasAttribute (name : Text) (test : Option ValueTest)
  | root
  | empty
  | scope
  /-- The element that a relative selector starts from. -/
  | anchor
  /-- Its position among its siblings, of its name or of all, is `step` times a natural number and
  `offset`. -/
  | nth (ofType fromEnd : Bool) (step offset : Int)
  | anyOf (alternatives : List Complex)
  | noneOf (alternatives : List Complex)
  | has (relatives : List Complex)

/-- Tests on an element and on those around it. -/
inductive Complex where
  | compound (tests : List Simple)
  | after (left : Complex) (combinator : Combinator) (tests : List Simple)

end

end Extraction.Css
