import Extraction.Markup.Builder.Table

/-!
# Reading markup

Markup is read as a whole document or as a fragment of a body. Reading never fails: what is out of
place is mended as browsers do.

## Main definitions

* `Markup.parseDocument`, `Markup.parseFragment`: the tree that a text writes
-/

namespace Extraction.Markup

namespace Build

/-- Tags of markup proper that end a drawing or a formula around them. -/
def breakouts : List Text :=
  names "b big blockquote body br center code dd div dl dt em embed h1 h2 h3 h4 h5 h6 head hr i img
    li listing menu meta nobr ol p pre ruby s small span strong strike sub sup table tt u ul var"

/-- Whether a piece is to be taken by the rules for other vocabularies. -/
def isForeign (piece : Piece) : Build Bool := do
  let b ← get
  match piece with
  | .finish => return false
  | _ =>
    if b.opened.isEmpty then return false
    let name ← adjustedName
    if name.space == .html then return false
    let isText := match piece with
      | .space _ | .text _ | .null => true
      | _ => false
    let label? := match piece with
      | .startTag tag => some tag.name
      | _ => none
    if isMathTextPoint name then
      if isText then return false
      if let some label := label? then
        if !(names "mglyph malignmark").elem label then return false
    if isSvgPoint name && (isText || label?.isSome) then return false
    if name.space == .math && name.label == "annotation-xml".toList then
      if label? == some "svg".toList then return false
      if isText || label?.isSome then
        let i ← current
        let encoding := (b.arena.attributes i).find? (·.name == "encoding".toList)
        let isPoint := (encoding.map fun a =>
          Text.eqIgnoreCase a.value "text/html".toList ||
            Text.eqIgnoreCase a.value "application/xhtml+xml".toList).getD false
        return !isPoint
    return true

/-- Ends the drawings and formulas that are open. -/
def leaveForeign : Build Unit := do
  let rec go : List Nat → Build (List Nat)
    | [] => return []
    | i :: rest => do
      let name ← nameOf i
      if name.space == .html || isMathTextPoint name || isSvgPoint name then return i :: rest
      else go rest
  let opened ← go (← get).opened
  modify fun b => { b with opened }

/-- The end tag of an element of another vocabulary, or of markup around it. -/
def endForeign (label : Text) : Build Outcome := do
  let rec go (isFirst : Bool) : List Nat → Build Outcome
    | [] => return .done
    | [_] => return .done
    | i :: rest => do
      let name ← nameOf i
      if !isFirst && name.space == .html then return .asHtml
      else if Text.eqIgnoreCase name.label label then
        modify fun b => { b with opened := rest }
        return .done
      else go false rest
  go true (← get).opened

/-- A piece inside a drawing or a formula. -/
def foreign (piece : Piece) : Build Outcome := do
  match piece with
  | .null => addText [replacement]; return .done
  | .space s => addText s; return .done
  | .text s =>
    addText s
    forbidFrameset
    return .done
  | .comment s => addComment s; return .done
  | .startTag tag =>
    let breaks := breakouts.elem tag.name || (tag.name == "font".toList &&
      tag.attributes.any fun (name, _) => (names "color face size").elem name)
    if breaks then
      leaveForeign
      return .asHtml
    else
      let name ← adjustedName
      insertForeign name.space tag
      return .done
  | .endTag label =>
    if (names "br p").elem label then
      leaveForeign
      return .asHtml
    else endForeign label
  | .finish => return .done

/-- A piece by the rules of the mode that is set. -/
def inMode (piece : Piece) : Build Outcome := do
  match (← get).mode with
  | .initial => initial piece
  | .beforeHtml => beforeHtml piece
  | .beforeHead => beforeHead piece
  | .inHead => inHead piece
  | .afterHead => afterHead piece
  | .inBody => inBody piece
  | .rawText => rawText piece
  | .inTable => inTable piece
  | .inTableText => inTableText piece
  | .inCaption => inCaption piece
  | .inColumnGroup => inColumnGroup piece
  | .inTableBody => inTableBody piece
  | .inRow => inRow piece
  | .inCell => inCell piece
  | .inSelect => inSelect piece
  | .inSelectInTable => inSelectInTable piece
  | .inTemplate => inTemplate piece
  | .afterBody => afterBody piece
  | .inFrameset => inFrameset piece
  | .afterFrameset => afterFrameset piece
  | .afterAfterBody => afterAfterBody piece
  | .afterAfterFrameset => afterAfterFrameset piece

/-- A piece, taken up again as often as need be, at most so many times. -/
def process (piece : Piece) : (fuel : Nat) → (asHtml : Bool) → Build Unit
  | 0, _ => return
  | fuel + 1, asHtml => do
    let outcome ← if !asHtml && (← isForeign piece) then foreign piece else inMode piece
    match outcome with
    | .done => return
    | .again => process piece fuel false
    | .asHtml => process piece fuel true

/-- A piece. Every time that it is taken up again an element has been closed, or the mode has gone on
by one. -/
def take (piece : Piece) : Build Unit := do
  process piece (4 * (← get).opened.length + 32) false

/-- The document types of old pages: starts of public identifiers, in small letters. -/
def oldDoctypes : List Text :=
  Text.splitOn ['|'] (
    "-//advasoft ltd//dtd html 3.0 aswedit + extensions//|-//as//dtd html 3.0 aswedit + extensions//|-//ietf//dtd html 2.0 level 1//|-//ietf//dtd html 2.0 level 2//|-//ietf//dtd html 2.0 strict level 1//|-//ietf//dtd html 2.0 strict level 2//|-//ietf//dtd html 2.0 strict//|-//ietf//dtd html 2.0//|-//ietf//dtd html 2.1e//|-//ietf//dtd html 3.0//|-//ietf//dtd html 3.2 final//|-//ietf//dtd html 3.2//|-//ietf//dtd html 3//|-//ietf//dtd html level 0//|-//ietf//dtd html level 1//|-//ietf//dtd html level 2//|-//ietf//dtd html level 3//|-//ietf//dtd html strict level 0//|-//ietf//dtd html strict level 1//|-//ietf//dtd html strict level 2//|-//ietf//dtd html strict level 3//|-//ietf//dtd html strict//|-//ietf//dtd html//|-//metrius//dtd metrius presentational//|-//microsoft//dtd internet explorer 2.0 html strict//|-//microsoft//dtd internet explorer 2.0 html//|-//microsoft//dtd internet explorer 2.0 tables//|-//microsoft//dtd internet explorer 3.0 html strict//|-//microsoft//dtd internet explorer 3.0 html//|-//microsoft//dtd internet explorer 3.0 tables//|-//netscape comm. corp.//dtd html//|-//netscape comm. corp.//dtd strict html//|-//o'reilly and associates//dtd html 2.0//|-//o'reilly and associates//dtd html extended 1.0//|-//o'reilly and associates//dtd html extended relaxed 1.0//|-//softquad software//dtd hotmetal pro 6.0::19990601::extensions to html 4.0//|-//softquad//dtd hotmetal pro 4.0::19971010::extensions to html 4.0//|-//spyglass//dtd html 2.0 extended//|-//sq//dtd html 2.0 hotmetal + extensions//|-//sun microsystems corp.//dtd hotjava html//|-//sun microsystems corp.//dtd hotjava strict html//|-//w3c//dtd html 3 1995-03-24//|-//w3c//dtd html 3.2 draft//|-//w3c//dtd html 3.2 final//|-//w3c//dtd html 3.2//|-//w3c//dtd html 3.2s draft//|-//w3c//dtd html 4.0 frameset//|-//w3c//dtd html 4.0 transitional//|-//w3c//dtd html experimental 19960712//|-//w3c//dtd html experimental 970421//|-//w3c//dtd w3 html//|-//w3o//dtd w3 html 3.0//|-//webtechs//dtd mozilla html 2.0//|-//webtechs//dtd mozilla html//").toList

/-- Whether a document type is the one of an old page. -/
def isOld (d : Doctype) : Bool :=
  let publicId := Text.lowerAscii (d.publicId.getD [])
  d.malformed || d.name != "html".toList ||
    ["-//w3o//dtd w3 html strict 3.0//en//".toList, "-/w3c/dtd html 4.0 transitional/en".toList,
      "html".toList].elem publicId ||
    Text.lowerAscii (d.systemId.getD []) ==
      "http://www.ibm.com/data/dtd/v11/ibmxhtml1-transitional.dtd".toList ||
    oldDoctypes.any (·.isPrefixOf publicId) ||
    (d.systemId.isNone && ["-//w3c//dtd html 4.01 frameset//".toList,
      "-//w3c//dtd html 4.01 transitional//".toList].any (·.isPrefixOf publicId))

/-- The pieces of a text: runs of blanks and runs of other characters. The fuel is the length of
the text. -/
def piecesOf : (fuel : Nat) → Text → List Piece
  | 0, _ => []
  | _ + 1, [] => []
  | fuel + 1, c :: rest =>
    if isSpace c then
      .space (c :: rest.takeWhile isSpace) :: piecesOf fuel (rest.dropWhile isSpace)
    else
      .text (c :: rest.takeWhile (!isSpace ·)) :: piecesOf fuel (rest.dropWhile (!isSpace ·))

/-- A text, less a line feed in front where one is dropped. -/
def takeText (s : Text) : Build Unit := do
  let skips := (← get).skipsNewline
  let s := if skips && s.head? = some '\n' then s.drop 1 else s
  modify fun b => { b with skipsNewline := false }
  for piece in piecesOf s.length s do take piece

/-- A token. -/
def takeToken (token : Token) : Build Unit := do
  match token with
  | .text [] => pure ()
  | .text s => takeText s
  | other =>
    modify fun b => { b with skipsNewline := false }
    match other with
    | .text _ => pure ()
    | .null => take .null
    | .startTag tag => take (.startTag tag)
    | .endTag name => take (.endTag name)
    | .comment s => take (.comment s)
    | .doctype d =>
      if (← get).mode == .initial then
        place (.lastIn 0) (← create (.doctype d.name))
        modify fun b => { b with isOldPage := isOld d, mode := .beforeHtml }

/-- The tokens of a text, and its end. The fuel is the length of the text: no token is empty. -/
def takeAll : (fuel : Nat) → Text → Build Unit
  | 0, _ => take .finish
  | fuel + 1, s => do
    let sections ← do
      if (← get).opened.isEmpty then pure false else pure ((← adjustedName).space != .html)
    match next? (← get).textKind sections s with
    | none => take .finish
    | some (token, rest) =>
      takeToken token
      takeAll fuel rest

end Build

/-- The builder before the first token. -/
def Builder.start (isFragment : Bool) : Builder where
  arena := ⟨#[⟨.document, none, []⟩]⟩
  opened := []
  formatting := []
  mode := .initial
  returnMode := .initial
  templateModes := []
  head := none
  form := none
  framesetAllowed := true
  fostering := false
  pending := []
  isOldPage := false
  isFragment := isFragment
  skipsNewline := false
  textKind := .ordinary

/-- The tree that has been built. -/
def Builder.tree (b : Builder) : Tree :=
  ⟨b.arena.freeze (b.arena.cells.size + 1) 0, b.isFragment⟩

/-- The tree of a whole document. -/
def parseDocument (s : Text) : Tree :=
  let s := cleaned s
  ((Build.takeAll s.length s).run (Builder.start false)).2.tree

/-- The tree of a fragment of a body. -/
def parseFragment (s : Text) : Tree :=
  let s := cleaned s
  ((do Build.createRoot []; Build.resetMode; Build.takeAll s.length s : Build Unit).run
    (Builder.start true)).2.tree

end Extraction.Markup
