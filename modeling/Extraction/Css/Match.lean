import Extraction.Css.Parser
import Extraction.Error
import Extraction.Markup.Node

/-!
# Selecting elements

Which elements of a tree a selector holds of. Elements are tried in document order, so that is the
order of what is selected.

## Main definitions

* `Css.Complex.holds`: whether a selector holds of an element
* `Css.select`: the elements below an element that one of the selectors in a text holds of
-/

namespace Extraction

namespace Markup.Place

/-- The children elements of the parent, or of the document around the root. -/
def siblings (p : Place) : List Place :=
  match p.path with
  | [] => [p]
  | _ :: _ => (p.withPath p.path.dropLast).childElements

/-- The siblings before the element, the nearest first. -/
def siblingsBefore (p : Place) : List Place := (p.siblings.takeWhile (·.path != p.path)).reverse

/-- The siblings after the element, the nearest first. -/
def siblingsAfter (p : Place) : List Place := (p.siblings.dropWhile (·.path != p.path)).drop 1

/-- The elements around the element, the nearest first. -/
def ancestors (p : Place) : List Place :=
  ((List.range p.path.length).reverse.map fun n => p.withPath (p.path.take n)).filter fun q =>
    (q.node?.map Node.isElement).getD false

/-- The name of the element. -/
def name? (p : Place) : Option Name := p.node?.bind Node.name?

end Markup.Place

namespace Css

open Markup

/-- A text as it is compared. -/
def caseKey (ignoresCase : Bool) (s : Text) : Text := if ignoresCase then Text.lowerAscii s else s

/-- Whether a value is what the test wants. An empty start, end, part or word is in no value. -/
def ValueTest.holds (t : ValueTest) (isHtml : Bool) (value : Text) : Bool :=
  let caseless := t.caseRule == .ignored || (t.caseRule == .ignoredInHtml && isHtml)
  let want := caseKey caseless t.value
  let value := caseKey caseless value
  match t.comparison with
  | .equal => value == want
  | .word =>
    !want.isEmpty && !want.any isGap && ((splitGaps value).elem want)
  | .dash => value == want || (want ++ ['-']).isPrefixOf value
  | .start => !want.isEmpty && want.isPrefixOf value
  | .finish => !want.isEmpty && want.isSuffixOf value
  | .part => !want.isEmpty && Text.includes value want
where
  /-- The pieces of a text between blanks. -/
  splitGaps (s : Text) : List Text :=
    s.foldr (fun c acc =>
      if isGap c then [] :: acc
      else match acc with
        | w :: rest => (c :: w) :: rest
        | [] => [[c]]) [[]]

/-- Whether an element of that name is markup's own. -/
def isHtmlElement (p : Place) : Bool := (p.name?.map fun n => n.space == .html).getD false

/-- A name as it is compared with the names of an element and its attributes: markup's own are in
small letters. -/
def nameKey (p : Place) (name : Text) : Text :=
  if isHtmlElement p then Text.lowerAscii name else name

/-- Whether an attribute of the element passes. -/
def hasAttribute (p : Place) (name : Text) (test : Option ValueTest) : Bool :=
  let key := nameKey p name
  p.attributes.any fun a =>
    a.qualifier.isEmpty && a.name == key &&
      match test with
      | none => true
      | some t => t.holds (isHtmlElement p) a.value

/-- Whether the siblings up to the element, its own position being `count`, are so many. -/
def isAtPosition (step offset : Int) (count : Nat) : Bool :=
  let rest := Int.ofNat count - offset
  if step = 0 then rest == 0 else rest % step == 0 && 0 ≤ rest / step

/-- The position of an element among its siblings, of its name or of all, counted from one. -/
def position? (p : Place) (ofType fromEnd : Bool) : Nat :=
  let before := if fromEnd then p.siblingsAfter else p.siblingsBefore
  (before.filter fun q => !ofType || q.name? == p.name?).length + 1

/-- Whether nothing but comments is in the element. -/
def isEmptyElement (p : Place) : Bool :=
  match p.node? with
  | some n => n.children.all fun c => !c.isElement && c.text?.isNone
  | none => true

/-- What a selector is judged by besides the element: the element that the search started from, and
the one that a relative selector starts from. -/
structure Setting where
  scope : List Nat
  anchor : List Nat

mutual

/-- Whether a test holds of an element. -/
def Simple.holds (s : Setting) : Simple → Place → Bool
  | .label name, p => p.label == nameKey p name
  | .id value, p => p.attribute? "id".toList == some value
  | .hasClass value, p => (Text.words ((p.attribute? "class".toList).getD [])).elem value
  | .hasAttribute name test, p => Css.hasAttribute p name test
  | .root, p => p.isRoot && !p.tree.isFragment
  | .empty, p => isEmptyElement p
  | .scope, p => p.path == s.scope
  | .anchor, p => p.path == s.anchor
  | .nth ofType fromEnd step offset, p => isAtPosition step offset (position? p ofType fromEnd)
  | .anyOf alternatives, p => anyHolds s alternatives p
  | .noneOf alternatives, p => !anyHolds s alternatives p
  | .has relatives, p =>
    (p.withPath p.path.dropLast).descendantElements.any fun q =>
      anyHolds ⟨s.scope, p.path⟩ relatives q

/-- Whether all tests hold of an element. -/
def allHold (s : Setting) : List Simple → Place → Bool
  | [], _ => true
  | t :: rest, p => t.holds s p && allHold s rest p

/-- Whether one of the selectors holds of an element. -/
def anyHolds (s : Setting) : List Complex → Place → Bool
  | [], _ => false
  | c :: rest, p => c.holds s p || anyHolds s rest p

/-- Whether a selector holds of an element. -/
def Complex.holds (s : Setting) : Complex → Place → Bool
  | .compound tests, p => allHold s tests p
  | .after left combinator tests, p =>
    allHold s tests p &&
      match combinator with
      | .descendant => p.ancestors.any fun q => left.holds s q
      | .child => p.parent?.any fun q => left.holds s q
      | .next => p.siblingsBefore.head?.any fun q => left.holds s q
      | .later => p.siblingsBefore.any fun q => left.holds s q

end

/-- The elements below an element that one of the selectors holds of. Below a node of another kind,
the document among them, nothing is sought. -/
def selectBy (selectors : List Complex) (p : Place) : List Place :=
  if (p.node?.map Node.isElement).getD false then
    p.descendantElements.filter (anyHolds ⟨p.path, p.path⟩ selectors)
  else []

/-- The elements below an element that one of the selectors in a text holds of. The text is read
before the node is looked at, so that a malformed one fails at every node. -/
def select (p : Place) (css : Text) : Except RuleError (List Place) :=
  match parse? css with
  | none => .error (.malformed css .selectorRejected)
  | some selectors => .ok (selectBy selectors p)

end Css

end Extraction
