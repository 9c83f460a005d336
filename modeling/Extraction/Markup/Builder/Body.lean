import Extraction.Markup.Builder.Formatting

/-!
# Modes of head and body

What a piece does in the modes before, in and after the head, and in the body.

## Main definitions

* `Build.inHead`, `Build.inBody`: the two modes that the others fall back on
-/

namespace Extraction.Markup.Build

/-- Adds text to where it stands, having opened again what goes on. -/
def bodyText (s : Text) : Build Unit := do
  reconstruct
  addText s

/-! ### Head -/

/-- Elements of the head that a body may hold, too. -/
def headElements : List Text :=
  names "base basefont bgsound link meta noframes script style template title"

/-- Adds attributes to an element whose names it lacks. -/
def mergeAttributes (i : Nat) (tag : Tag) : Build Unit :=
  modify fun b => { b with arena := b.arena.addAttributes i (plainAttributes tag) }

/-- The start tag of the root where it is open already. -/
def repeatedRoot (tag : Tag) : Build Unit := do
  if !(← isOpen "template".toList) then mergeAttributes (← outermost) tag

/-- The start tag of a template. -/
def startTemplate (tag : Tag) : Build Unit := do
  let _ ← insert tag
  pushMarker
  forbidFrameset
  modify fun b => { b with mode := .inTemplate, templateModes := .inTemplate :: b.templateModes }

/-- The end tag of a template. -/
def endTemplate : Build Unit := do
  if ← isOpen "template".toList then
    popWhile impliedThorough
    popUntil ["template".toList]
    clearToMarker
    modify fun b => { b with templateModes := b.templateModes.drop 1 }
    resetMode

/-- Leaves the head and takes the piece up again. -/
def leaveHead : Build Outcome := do
  pop
  againIn .afterHead

/-- A piece in the head. -/
def inHead (piece : Piece) : Build Outcome := do
  match piece with
  | .space s => addText s; return .done
  | .comment s => addComment s; return .done
  | .startTag tag =>
    let is (s : String) : Bool := tag.name == s.toList
    if is "html" then repeatedRoot tag; return .done
    else if (names "base basefont bgsound link meta").elem tag.name then
      insertVoid tag
      return .done
    else if is "title" then insertRaw tag (.referencesOnly tag.name); return .done
    else if (names "noframes style noscript").elem tag.name then
      insertRaw tag (.raw tag.name)
      return .done
    else if is "script" then insertRaw tag .script; return .done
    else if is "template" then startTemplate tag; return .done
    else if is "head" then return .done
    else leaveHead
  | .endTag name =>
    if name = "head".toList then pop; setMode .afterHead; return .done
    else if (names "body html br").elem name then leaveHead
    else if name = "template".toList then endTemplate; return .done
    else return .done
  | _ => leaveHead

/-! ### Before and after the head -/

/-- A piece before anything else. -/
def initial (piece : Piece) : Build Outcome := do
  match piece with
  | .space _ => return .done
  | .comment s => addCommentTo 0 s; return .done
  | _ =>
    modify fun b => { b with isOldPage := true }
    againIn .beforeHtml

/-- A piece before the root element. -/
def beforeHtml (piece : Piece) : Build Outcome := do
  let start : Build Outcome := do createRoot []; againIn .beforeHead
  match piece with
  | .space _ => return .done
  | .comment s => addCommentTo 0 s; return .done
  | .startTag tag =>
    if tag.name = "html".toList then
      createRoot (plainAttributes tag)
      setMode .beforeHead
      return .done
    else start
  | .endTag name => if (names "head body html br").elem name then start else return .done
  | _ => start

/-- Opens a head and notes it. -/
def openHead (tag : Tag) : Build Unit := do
  let i ← insert tag
  modify fun b => { b with head := some i, mode := .inHead }

/-- A piece before the head. -/
def beforeHead (piece : Piece) : Build Outcome := do
  let start : Build Outcome := do openHead (bareTag "head".toList); return .again
  match piece with
  | .space _ => return .done
  | .comment s => addComment s; return .done
  | .startTag tag =>
    if tag.name = "html".toList then repeatedRoot tag; return .done
    else if tag.name = "head".toList then openHead tag; return .done
    else start
  | .endTag name => if (names "head body html br").elem name then start else return .done
  | _ => start

/-- A piece between head and body. -/
def afterHead (piece : Piece) : Build Outcome := do
  let start : Build Outcome := do
    let _ ← insertImplied "body".toList
    againIn .inBody
  match piece with
  | .space s => addText s; return .done
  | .comment s => addComment s; return .done
  | .startTag tag =>
    if tag.name = "html".toList then repeatedRoot tag; return .done
    else if tag.name = "body".toList then
      let _ ← insert tag
      forbidFrameset
      setMode .inBody
      return .done
    else if tag.name = "frameset".toList then
      let _ ← insert tag
      setMode .inFrameset
      return .done
    else if headElements.elem tag.name then
      match (← get).head with
      | none => inHead piece
      | some head =>
        push head
        let outcome ← inHead piece
        removeOpen head
        return outcome
    else if tag.name = "head".toList then return .done
    else start
  | .endTag name =>
    if name = "template".toList then inHead piece
    else if (names "body html br").elem name then start
    else return .done
  | _ => start

/-! ### Body -/

/-- Elements that end a paragraph, and whose end tag ends what is open inside. -/
def blocks : List Text :=
  names "address article aside blockquote center details dialog dir div dl fieldset figcaption figure
    footer header hgroup main menu nav ol search section summary ul"

/-- Headings. -/
def headings : List Text := names "h1 h2 h3 h4 h5 h6"

/-- Formatting elements other than links. -/
def formattingLabels : List Text := names "b big code em font i s small strike strong tt u"

/-- Adds and opens the element of a tag where a paragraph ends. -/
def insertBlock (tag : Tag) : Build Unit := do
  closeParagraph
  let _ ← insert tag

/-- Adds and opens the element of a tag in running text. -/
def insertInline (tag : Tag) : Build Unit := do
  reconstruct
  let _ ← insert tag

/-- Ends an element and what is open inside it, if it is in scope. -/
def endInScope (labels : List Text) (label : Text) : Build Unit := do
  if ← inScope labels label then
    popWhile implied
    popUntil [label]

/-- The start tag of an item, which ends the item before it. -/
def startItem (tag : Tag) : Build Unit := do
  let ended := if tag.name = "li".toList then names "li" else names "dd dt"
  let passed := special.filter fun label => !(names "address div p").elem label
  forbidFrameset
  let rec find : List Nat → Build (Option Text)
    | [] => return none
    | i :: rest => do
      if ← isAnyOf i ended then return some (← nameOf i).label
      else if ← isAnyOf i passed then return none
      else find rest
  match ← find (← get).opened with
  | some label =>
    closeImpliedExcept label
    popUntil [label]
  | none => pure ()
  insertBlock tag

/-- The start tag of a body where one is open already. -/
def repeatedBody (tag : Tag) : Build Unit := do
  let opened := (← get).opened
  match opened.reverse with
  | _ :: body :: _ =>
    if (← isHtml body "body".toList) && !(← isOpen "template".toList) then
      forbidFrameset
      mergeAttributes body tag
  | _ => pure ()

/-- The start tag of a frameset in a body, which it replaces if nothing has been shown yet. -/
def framesetInBody (tag : Tag) : Build Unit := do
  let b ← get
  if b.framesetAllowed then
    match b.opened.reverse with
    | root :: body :: _ =>
      if ← isHtml body "body".toList then
        modify fun b => { b with arena := b.arena.detach body, opened := [root] }
        let _ ← insert tag
        setMode .inFrameset
    | _ => pure ()

/-- The start tag of a form. Forms do not nest. -/
def startForm (tag : Tag) : Build Unit := do
  let inTemplate ← isOpen "template".toList
  if (← get).form.isNone || inTemplate then
    closeParagraph
    let i ← insert tag
    if !inTemplate then modify fun b => { b with form := some i }

/-- The end tag of a form. -/
def endForm : Build Unit := do
  if ← isOpen "template".toList then endInScope scopeBounds "form".toList
  else
    let form := (← get).form
    modify fun b => { b with form := none }
    match form with
    | none => pure ()
    | some i =>
      if ← inScopeBy scopeBounds fun j _ => j == i then
        popWhile implied
        removeOpen i

/-- Names of elements of drawings whose capitals are restored. -/
def svgLabels : List Text :=
  names "altGlyph altGlyphDef altGlyphItem animateColor animateMotion animateTransform clipPath
    feBlend feColorMatrix feComponentTransfer feComposite feConvolveMatrix feDiffuseLighting
    feDisplacementMap feDistantLight feDropShadow feFlood feFuncA feFuncB feFuncG feFuncR
    feGaussianBlur feImage feMerge feMergeNode feMorphology feOffset fePointLight feSpecularLighting
    feSpotLight feTile feTurbulence foreignObject glyphRef linearGradient radialGradient textPath"

/-- Names of attributes of drawings whose capitals are restored. -/
def svgAttributes : List Text :=
  names "attributeName attributeType baseFrequency baseProfile calcMode clipPathUnits
    diffuseConstant edgeMode filterUnits glyphRef gradientTransform gradientUnits kernelMatrix
    kernelUnitLength keyPoints keySplines keyTimes lengthAdjust limitingConeAngle markerHeight
    markerUnits markerWidth maskContentUnits maskUnits numOctaves pathLength patternContentUnits
    patternTransform patternUnits pointsAtX pointsAtY pointsAtZ preserveAlpha preserveAspectRatio
    primitiveUnits refX refY repeatCount repeatDur requiredExtensions requiredFeatures
    specularConstant specularExponent spreadMethod startOffset stdDeviation stitchTiles surfaceScale
    systemLanguage tableValues targetX targetY textLength viewBox viewTarget xChannelSelector
    yChannelSelector zoomAndPan"

/-- The name of a list that differs from a name in capitals alone; else the name itself. -/
def restore (list : List Text) (name : Text) : Text :=
  (list.find? fun s => Text.lowerAscii s == name).getD name

/-- An attribute of an element of another vocabulary. -/
def foreignAttribute (space : Space) (name value : Text) : Attribute :=
  let name := match space with
    | .svg => restore svgAttributes name
    | .math => if name = "definitionurl".toList then "definitionURL".toList else name
    | .html => name
  if (names "xlink:actuate xlink:arcrole xlink:href xlink:role xlink:show xlink:title xlink:type
      xml:lang xml:space xmlns:xlink").elem name then
    match Text.splitOnce? [':'] name with
    | some (qualifier, label) => ⟨qualifier, label, value⟩
    | none => ⟨[], name, value⟩
  else if name = "xmlns".toList then ⟨name, name, value⟩
  else ⟨[], name, value⟩

/-- The start tag of an element of another vocabulary. -/
def insertForeign (space : Space) (tag : Tag) : Build Unit := do
  let label := match space with
    | .svg => restore svgLabels tag.name
    | _ => tag.name
  let i ← addElement ⟨space, label⟩ (tag.attributes.map fun (n, v) => foreignAttribute space n v)
  if !tag.selfClosing then push i

/-- A start tag in the body. -/
def startInBody (tag : Tag) : Build Outcome := do
  let is (s : String) : Bool := tag.name == s.toList
  let oneOf (s : String) : Bool := (names s).elem tag.name
  if is "html" then repeatedRoot tag
  else if headElements.elem tag.name then return ← inHead (.startTag tag)
  else if is "body" then repeatedBody tag
  else if is "frameset" then framesetInBody tag
  else if blocks.elem tag.name || is "p" then insertBlock tag
  else if headings.elem tag.name then
    closeParagraph
    if ← currentIs headings then pop
    let _ ← insert tag
  else if oneOf "pre listing" then
    insertBlock tag
    modify fun b => { b with skipsNewline := true, framesetAllowed := false }
  else if is "form" then startForm tag
  else if oneOf "li dd dt" then startItem tag
  else if is "plaintext" then
    insertBlock tag
    modify fun b => { b with textKind := .plain }
  else if is "button" then
    endInScope scopeBounds tag.name
    insertInline tag
    forbidFrameset
  else if is "a" then
    endOpenLink
    reconstruct
    insertFormatting tag
  else if formattingLabels.elem tag.name then
    reconstruct
    insertFormatting tag
  else if is "nobr" then
    reconstruct
    if ← inScope scopeBounds tag.name then
      endFormatting tag.name
      reconstruct
    insertFormatting tag
  else if oneOf "applet marquee object" then
    insertInline tag
    pushMarker
    forbidFrameset
  else if is "table" then
    if !(← get).isOldPage then closeParagraph
    let _ ← insert tag
    forbidFrameset
    setMode .inTable
  else if oneOf "area br embed img keygen wbr input" then
    let hidden := is "input" && tag.attributes.any fun (name, value) =>
      name == "type".toList && Text.eqIgnoreCase value "hidden".toList
    reconstruct
    insertVoid tag
    if !hidden then forbidFrameset
  else if oneOf "param source track" then insertVoid tag
  else if is "hr" then
    closeParagraph
    insertVoid tag
    forbidFrameset
  else if is "image" then
    reconstruct
    insertVoid ⟨"img".toList, tag.attributes, tag.selfClosing⟩
    forbidFrameset
  else if is "textarea" then
    modify fun b => { b with skipsNewline := true, framesetAllowed := false }
    insertRaw tag (.referencesOnly tag.name)
  else if is "xmp" then
    closeParagraph
    reconstruct
    forbidFrameset
    insertRaw tag (.raw tag.name)
  else if is "iframe" then
    forbidFrameset
    insertRaw tag (.raw tag.name)
  else if oneOf "noembed noscript" then insertRaw tag (.raw tag.name)
  else if is "select" then
    let mode := (← get).mode
    insertInline tag
    forbidFrameset
    setMode <|
      if [Mode.inTable, .inCaption, .inTableBody, .inRow, .inCell].elem mode then .inSelectInTable
      else .inSelect
  else if oneOf "optgroup option" then
    if ← currentIs (names "option") then pop
    insertInline tag
  else if oneOf "rb rtc" then
    if ← inScope scopeBounds "ruby".toList then popWhile implied
    let _ ← insert tag
  else if oneOf "rp rt" then
    if ← inScope scopeBounds "ruby".toList then closeImpliedExcept "rtc".toList
    let _ ← insert tag
  else if is "math" then
    reconstruct
    insertForeign .math tag
  else if is "svg" then
    reconstruct
    insertForeign .svg tag
  else if oneOf "caption col colgroup frame head tbody td tfoot th thead tr" then pure ()
  else insertInline tag
  return .done

/-- An end tag in the body. -/
def endInBody (name : Text) : Build Outcome := do
  let is (s : String) : Bool := name == s.toList
  if is "template" then endTemplate
  else if is "body" then
    if ← inScope scopeBounds name then setMode .afterBody
  else if is "html" then
    if ← inScope scopeBounds "body".toList then return ← againIn .afterBody
  else if blocks.elem name || (names "button listing pre").elem name then endInScope scopeBounds name
  else if is "form" then endForm
  else if is "p" then
    if !(← inScope buttonBounds name) then
      let _ ← insertImplied name
    closeParagraph
  else if is "li" then
    if ← inScope listBounds name then
      closeImpliedExcept name
      popUntil [name]
  else if (names "dd dt").elem name then
    if ← inScope scopeBounds name then
      closeImpliedExcept name
      popUntil [name]
  else if headings.elem name then
    if ← anyInScope scopeBounds headings then
      popWhile implied
      popUntil headings
  else if formattingLabels.elem name || (names "a nobr").elem name then endFormatting name
  else if (names "applet marquee object").elem name then
    if ← inScope scopeBounds name then
      popWhile implied
      popUntil [name]
      clearToMarker
  else if is "br" then return ← startInBody (bareTag name)
  else endOrdinary name
  return .done

/-- A piece in the body; the end of the source inside a template apart. -/
def inBody (piece : Piece) : Build Outcome := do
  match piece with
  | .null => return .done
  | .space s => bodyText s; return .done
  | .text s =>
    bodyText s
    forbidFrameset
    return .done
  | .comment s => addComment s; return .done
  | .startTag tag => startInBody tag
  | .endTag name => endInBody name
  | .finish =>
    if (← get).templateModes.isEmpty then return .done
    else
      if ← isOpen "template".toList then
        popUntil ["template".toList]
        clearToMarker
        modify fun b => { b with templateModes := b.templateModes.drop 1 }
        resetMode
        return .again
      else return .done

/-! ### After the body -/

/-- A piece inside an element whose content is text. -/
def rawText (piece : Piece) : Build Outcome := do
  let leave : Build Unit := do
    pop
    modify fun b => { b with mode := b.returnMode, textKind := .ordinary }
  match piece with
  | .space s | .text s => addText s; return .done
  | .finish => leave; return .again
  | .endTag _ => leave; return .done
  | _ => return .done

/-- A piece after the body. -/
def afterBody (piece : Piece) : Build Outcome := do
  match piece with
  | .space _ => inBody piece
  | .comment s => addCommentTo (← outermost) s; return .done
  | .finish => return .done
  | .startTag tag =>
    if tag.name = "html".toList then repeatedRoot tag; return .done else againIn .inBody
  | .endTag name =>
    if name = "html".toList then
      if !(← get).isFragment then setMode .afterAfterBody
      return .done
    else againIn .inBody
  | _ => againIn .inBody

/-- A piece after the root element. -/
def afterAfterBody (piece : Piece) : Build Outcome := do
  match piece with
  | .space _ => inBody piece
  | .comment s => addCommentTo 0 s; return .done
  | .finish => return .done
  | .startTag tag =>
    if tag.name = "html".toList then repeatedRoot tag; return .done else againIn .inBody
  | _ => againIn .inBody

/-- A piece in a frameset. -/
def inFrameset (piece : Piece) : Build Outcome := do
  match piece with
  | .space s => addText s; return .done
  | .comment s => addComment s; return .done
  | .startTag tag =>
    let is (s : String) : Bool := tag.name == s.toList
    if is "html" then repeatedRoot tag
    else if is "frameset" then
      let _ ← insert tag
    else if is "frame" then insertVoid tag
    else if is "noframes" then return ← inHead piece
    return .done
  | .endTag name =>
    if name = "frameset".toList && (← get).opened.length != 1 then
      pop
      if !(← get).isFragment && !(← currentIs [name]) then setMode .afterFrameset
    return .done
  | _ => return .done

/-- A piece after the outermost frameset. -/
def afterFrameset (piece : Piece) : Build Outcome := do
  match piece with
  | .space s => addText s; return .done
  | .comment s => addComment s; return .done
  | .startTag tag =>
    if tag.name = "html".toList then repeatedRoot tag; return .done
    else if tag.name = "noframes".toList then inHead piece
    else return .done
  | .endTag name =>
    if name = "html".toList then setMode .afterAfterFrameset
    return .done
  | _ => return .done

/-- A piece after the root element of a page of frames. -/
def afterAfterFrameset (piece : Piece) : Build Outcome := do
  match piece with
  | .space _ => inBody piece
  | .comment s => addCommentTo 0 s; return .done
  | .startTag tag =>
    if tag.name = "html".toList then repeatedRoot tag; return .done
    else if tag.name = "noframes".toList then inHead piece
    else return .done
  | _ => return .done

end Extraction.Markup.Build
