import Extraction.Markup.Builder.Arena
import Extraction.Markup.Token

/-!
# Building a tree

A tree is built token by token. What has been reached is the nodes so far, the elements that are
still open, the formatting elements that go on in what follows, and the insertion mode, which says
what the next token may be.

## Main definitions

* `Markup.Builder`: what has been reached
* `Markup.Build`: an action that takes it on
-/

namespace Extraction.Markup

/-- What kind of place in a document the builder is at. -/
inductive Mode where
  | initial
  | beforeHtml
  | beforeHead
  | inHead
  | afterHead
  | inBody
  | rawText
  | inTable
  | inTableText
  | inCaption
  | inColumnGroup
  | inTableBody
  | inRow
  | inCell
  | inSelect
  | inSelectInTable
  | inTemplate
  | afterBody
  | inFrameset
  | afterFrameset
  | afterAfterBody
  | afterAfterFrameset
  deriving DecidableEq

/-- A token as the modes see it: blank and other text apart, and the end of the source. -/
inductive Piece where
  | space (s : Text)
  | text (s : Text)
  | null
  | comment (s : Text)
  | startTag (tag : Tag)
  | endTag (name : Text)
  | finish

/-- What is left to do with a piece. -/
inductive Outcome where
  | done
  /-- It is to be taken up in the mode that is set now. -/
  | again
  /-- The same, and as if it stood in markup's own vocabulary. -/
  | asHtml

/-- What has been reached. Open elements and formatting elements are listed from the innermost or
last one on; a marker among the formatting elements is `none`. -/
structure Builder where
  arena : Arena
  opened : List Nat
  formatting : List (Option (Nat × Tag))
  mode : Mode
  /-- The mode to go back to after text. -/
  returnMode : Mode
  templateModes : List Mode
  head : Option Nat
  form : Option Nat
  framesetAllowed : Bool
  /-- Whether what does not belong in a table goes in front of it. -/
  fostering : Bool
  /-- Text read in a table, reversed, of which it is not known yet where it goes. -/
  pending : List Piece
  /-- Whether the document follows the rules of old pages. -/
  isOldPage : Bool
  isFragment : Bool
  /-- Whether a line feed that comes next is dropped. -/
  skipsNewline : Bool
  textKind : TextKind

/-- An action on what has been reached. -/
abbrev Build := StateM Builder

namespace Build

/-- A list of names. -/
def names (s : String) : List Text := Text.words s.toList

/-- A name in markup's own vocabulary. -/
def html (s : String) : Name := ⟨.html, s.toList⟩

/-! ### Questions -/

/-- The name of an element. -/
def nameOf (i : Nat) : Build Name := return ((← get).arena.name? i).getD ⟨.html, []⟩

/-- Whether an element is one of markup's own with one of these names. -/
def isAnyOf (i : Nat) (labels : List Text) : Build Bool := do
  let name ← nameOf i
  return name.space == .html && labels.elem name.label

/-- Whether an element is the one of markup's own with this name. -/
def isHtml (i : Nat) (label : Text) : Build Bool := isAnyOf i [label]

/-- The innermost open element. -/
def current : Build Nat := return (← get).opened.headD 0

/-- Whether the innermost open element has one of these names. -/
def currentIs (labels : List Text) : Build Bool := do isAnyOf (← current) labels

/-- The outermost open element. -/
def outermost : Build Nat := return (← get).opened.getLastD 0

/-- The name of the innermost open element; in a fragment the context stands for its root. -/
def adjustedName : Build Name := do
  let b ← get
  if b.isFragment && b.opened.length ≤ 1 then return html "body"
  else nameOf (← current)

/-- Where text of mathematics turns into ordinary markup. -/
def isMathTextPoint (name : Name) : Bool :=
  name.space == .math && (names "mi mo mn ms mtext").elem name.label

/-- Where a drawing turns into ordinary markup. -/
def isSvgPoint (name : Name) : Bool :=
  name.space == .svg && (names "foreignObject desc title").elem name.label

/-- Elements that bound every scope but those of tables and lists of options. -/
def scopeBounds : List Text := names "applet caption html table td th marquee object template"

/-- Elements that bound the scope of lists. -/
def listBounds : List Text := scopeBounds ++ names "ol ul"

/-- Elements that bound the scope of buttons. -/
def buttonBounds : List Text := scopeBounds ++ names "button"

/-- Elements that bound the scope of tables. -/
def tableBounds : List Text := names "html table template"

/-- Whether an element bounds a scope. Of the scopes other than a table's, points of integration are
bounds, too. -/
def bounds (labels : List Text) (name : Name) : Bool :=
  (name.space == .html && labels.elem name.label) ||
    (labels.elem "object".toList && (isMathTextPoint name || isSvgPoint name))

/-- Whether an open element that `wanted` holds of comes before any bound of the scope. -/
def inScopeBy (labels : List Text) (wanted : Nat → Name → Bool) : Build Bool := do
  let rec go : List Nat → Build Bool
    | [] => return false
    | i :: rest => do
      let name ← nameOf i
      if wanted i name then return true
      else if bounds labels name then return false
      else go rest
  go (← get).opened

/-- Whether an element with one of these names is in scope. -/
def anyInScope (labels : List Text) (wanted : List Text) : Build Bool :=
  inScopeBy labels fun _ name => name.space == .html && wanted.elem name.label

/-- Whether an element with this name is in scope. -/
def inScope (labels : List Text) (wanted : Text) : Build Bool := anyInScope labels [wanted]

/-- Whether an element of a list of options is in its scope, where all but options bound it. -/
def inSelectScope (wanted : Text) : Build Bool := do
  let rec go : List Nat → Build Bool
    | [] => return false
    | i :: rest => do
      if ← isHtml i wanted then return true
      else if ← isAnyOf i (names "optgroup option") then go rest
      else return false
  go (← get).opened

/-- Whether an element with this name is open. -/
def isOpen (label : Text) : Build Bool := do (← get).opened.anyM (isHtml · label)

/-! ### Open elements -/

/-- Opens an element. -/
def push (i : Nat) : Build Unit := modify fun b => { b with opened := i :: b.opened }

/-- Closes the innermost element. -/
def pop : Build Unit := modify fun b => { b with opened := b.opened.drop 1 }

/-- Closes one open element wherever it stands. -/
def removeOpen (i : Nat) : Build Unit := modify fun b => { b with opened := b.opened.filter (· != i) }

/-- Closes elements until one with one of these names is innermost. -/
def popUntilCurrent (labels : List Text) : Build Unit := do
  let rec go : List Nat → Build (List Nat)
    | [] => return []
    | i :: rest => do if ← isAnyOf i labels then return i :: rest else go rest
  let opened ← go (← get).opened
  modify fun b => { b with opened }

/-- Closes elements up to and with one of these names. -/
def popUntil (labels : List Text) : Build Unit := do popUntilCurrent labels; pop

/-- Elements whose end may be left out. -/
def implied : List Text := names "dd dt li option optgroup p rb rp rt rtc"

/-- Elements whose end may be left out, those of tables included. -/
def impliedThorough : List Text := implied ++ names "caption colgroup tbody td tfoot th thead tr"

/-- Closes the innermost elements that have one of these names. -/
def popWhile (labels : List Text) : Build Unit := do
  let rec go : List Nat → Build (List Nat)
    | [] => return []
    | i :: rest => do if ← isAnyOf i labels then go rest else return i :: rest
  let opened ← go (← get).opened
  modify fun b => { b with opened }

/-- Closes the innermost elements whose end may be left out, except those with this name. -/
def closeImpliedExcept (label : Text) : Build Unit := popWhile (implied.filter (· != label))

/-- Closes an open paragraph in the scope of buttons. -/
def closeParagraph : Build Unit := do
  if ← inScope buttonBounds ['p'] then
    closeImpliedExcept ['p']
    popUntil [['p']]

/-! ### Nodes -/

/-- Where a new node goes. -/
inductive Target where
  | lastIn (parent : Nat)
  | before (sibling : Nat)

/-- Where a node goes that is inserted in `parent`. In a table, while fostering, it goes in front of
the table. -/
def targetIn (parent : Nat) : Build Target := do
  let b ← get
  if !(b.fostering && (← isAnyOf parent (names "table tbody tfoot thead tr"))) then
    return .lastIn parent
  let rec go : List Nat → Build Target
    | [] => return .lastIn parent
    | [i] => return .lastIn i
    | i :: outer :: rest => do
      if ← isHtml i "template".toList then return .lastIn i
      else if ← isHtml i "table".toList then
        if (b.arena.get i).parent.isSome then return .before i else return .lastIn outer
      else go (outer :: rest)
  go b.opened

/-- Puts a node where it goes. -/
def place (target : Target) (i : Nat) : Build Unit :=
  modify fun b => { b with
    arena := match target with
      | .lastIn parent => b.arena.append parent i
      | .before sibling => b.arena.insertBefore sibling i }

/-- A new node. -/
def create (content : Content) : Build Nat :=
  modifyGet fun b =>
    let (i, arena) := b.arena.create content
    (i, { b with arena })

/-- Adds a text. -/
def addText (s : Text) : Build Unit := do
  match ← targetIn (← current) with
  | .lastIn parent => modify fun b => { b with arena := b.arena.appendText parent s }
  | .before sibling => modify fun b => { b with arena := b.arena.insertTextBefore sibling s }

/-- Adds a comment to the innermost element. -/
def addComment (s : Text) : Build Unit := do
  let target ← targetIn (← current)
  place target (← create (.comment s))

/-- Adds a comment to a certain node. -/
def addCommentTo (parent : Nat) (s : Text) : Build Unit := do
  place (.lastIn parent) (← create (.comment s))

/-- The attributes of a tag. -/
def plainAttributes (tag : Tag) : List Attribute :=
  tag.attributes.map fun (name, value) => ⟨[], name, value⟩

/-- Adds an element, which is not opened. -/
def addElement (name : Name) (attributes : List Attribute) : Build Nat := do
  let target ← targetIn (← current)
  let i ← create (.element name attributes)
  place target i
  return i

/-- Adds the element of a tag and opens it. -/
def insert (tag : Tag) : Build Nat := do
  let i ← addElement ⟨.html, tag.name⟩ (plainAttributes tag)
  push i
  return i

/-- Adds the element of a tag that has no content. -/
def insertVoid (tag : Tag) : Build Unit := do
  let _ ← addElement ⟨.html, tag.name⟩ (plainAttributes tag)

/-- A tag with this name and no attributes. -/
def bareTag (label : Text) : Tag := ⟨label, [], false⟩

/-- Adds and opens an element whose tag has been left out. -/
def insertImplied (label : Text) : Build Nat := insert (bareTag label)

/-- Makes the root element and opens it. -/
def createRoot (attributes : List Attribute) : Build Unit := do
  let i ← create (.element (html "html") attributes)
  push i
  place (.lastIn 0) i

/-- Sets the mode. -/
def setMode (mode : Mode) : Build Unit := modify fun b => { b with mode }

/-- Sets the mode and takes the piece up again. -/
def againIn (mode : Mode) : Build Outcome := do
  setMode mode
  return .again

/-- Forbids that a frameset replaces the body. -/
def forbidFrameset : Build Unit := modify fun b => { b with framesetAllowed := false }

/-- Adds the element of a tag whose content is text of some kind. -/
def insertRaw (tag : Tag) (kind : TextKind) : Build Unit := do
  let _ ← insert tag
  modify fun b => { b with returnMode := b.mode, mode := .rawText, textKind := kind }

/-- The mode that the open elements call for. -/
def fittingMode : Build Mode := do
  let b ← get
  let rec go : List Nat → Build Mode
    | [] => return .inBody
    | i :: rest => do
      let last := rest.isEmpty
      let name ← if last && b.isFragment then pure (html "body") else nameOf i
      let is (s : String) : Bool := name.label == s.toList
      if name.space != .html then go rest
      else if is "select" then
        let rec table : List Nat → Build Bool
          | [] => return false
          | j :: outer => do
            if ← isHtml j "template".toList then return false
            else if ← isHtml j "table".toList then return true
            else table outer
        if ← table rest then return .inSelectInTable else return .inSelect
      else if (is "td" || is "th") && !last then return .inCell
      else if is "tr" then return .inRow
      else if is "tbody" || is "thead" || is "tfoot" then return .inTableBody
      else if is "caption" then return .inCaption
      else if is "colgroup" then return .inColumnGroup
      else if is "table" then return .inTable
      else if is "template" then return b.templateModes.headD .inBody
      else if is "head" && !last then return .inHead
      else if is "body" then return .inBody
      else if is "frameset" then return .inFrameset
      else if is "html" then return if b.head.isSome then .afterHead else .beforeHead
      else go rest
  go b.opened

/-- Sets the mode that the open elements call for. -/
def resetMode : Build Unit := do setMode (← fittingMode)

end Build

end Extraction.Markup
