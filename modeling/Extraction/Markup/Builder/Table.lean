import Extraction.Markup.Builder.Body

/-!
# Modes of tables, lists of options and templates

What a piece does in the parts of a table, in a list of options and in a template. What does not
belong in a table goes in front of it.
-/

namespace Extraction.Markup.Build

/-- A piece that does not belong in a table. -/
def fosterInBody (piece : Piece) : Build Outcome := do
  modify fun b => { b with fostering := true }
  let outcome ← inBody piece
  modify fun b => { b with fostering := false }
  return outcome

/-- Text in a table, of which it is not known yet whether it is all blank. -/
def textInTable (piece : Piece) : Build Outcome := do
  if ← currentIs (names "table tbody tfoot thead tr") then
    modify fun b => { b with returnMode := b.mode, mode := .inTableText, pending := [] }
    return .again
  else fosterInBody piece

/-- A piece in a table. -/
def inTable (piece : Piece) : Build Outcome := do
  match piece with
  | .space _ | .text _ | .null => textInTable piece
  | .comment s => addComment s; return .done
  | .startTag tag =>
    let is (s : String) : Bool := tag.name == s.toList
    let oneOf (s : String) : Bool := (names s).elem tag.name
    if is "caption" then
      popUntilCurrent tableBounds
      pushMarker
      let _ ← insert tag
      setMode .inCaption
      return .done
    else if is "colgroup" then
      popUntilCurrent tableBounds
      let _ ← insert tag
      setMode .inColumnGroup
      return .done
    else if is "col" then
      popUntilCurrent tableBounds
      let _ ← insertImplied "colgroup".toList
      againIn .inColumnGroup
    else if oneOf "tbody tfoot thead" then
      popUntilCurrent tableBounds
      let _ ← insert tag
      setMode .inTableBody
      return .done
    else if oneOf "td th tr" then
      popUntilCurrent tableBounds
      let _ ← insertImplied "tbody".toList
      againIn .inTableBody
    else if is "table" then
      if ← inScope tableBounds tag.name then
        popUntil [tag.name]
        resetMode
        return .again
      else return .done
    else if oneOf "style script template" then inHead piece
    else if is "input" && tag.attributes.any (fun (name, value) =>
        name == "type".toList && Text.eqIgnoreCase value "hidden".toList) then
      insertVoid tag
      return .done
    else if is "form" then
      if !(← isOpen "template".toList) && (← get).form.isNone then
        let i ← addElement ⟨.html, tag.name⟩ (plainAttributes tag)
        modify fun b => { b with form := some i }
      return .done
    else fosterInBody piece
  | .endTag name =>
    if name = "table".toList then
      if ← inScope tableBounds name then
        popUntil [name]
        resetMode
      return .done
    else if (names "body caption col colgroup html tbody td tfoot th thead tr").elem name then
      return .done
    else if name = "template".toList then inHead piece
    else fosterInBody piece
  | .finish => inBody piece

/-- A piece after text in a table. Text that is not all blank goes in front of the table. -/
def inTableText (piece : Piece) : Build Outcome := do
  match piece with
  | .null => return .done
  | .space _ | .text _ =>
    modify fun b => { b with pending := piece :: b.pending }
    return .done
  | _ =>
    let pending := (← get).pending.reverse
    let isBlank := pending.all fun p => match p with
      | .space _ => true
      | _ => false
    for p in pending do
      if isBlank then
        match p with
        | .space s => addText s
        | _ => pure ()
      else
        let _ ← fosterInBody p
    modify fun b => { b with mode := b.returnMode, pending := [] }
    return .again

/-- The tags that start a part of a table. -/
def tableParts : List Text := names "caption col colgroup tbody td tfoot th thead tr"

/-- A piece in the caption of a table. -/
def inCaption (piece : Piece) : Build Outcome := do
  let leave : Build Bool := do
    if ← inScope tableBounds "caption".toList then
      popWhile implied
      popUntil ["caption".toList]
      clearToMarker
      setMode .inTable
      return true
    else return false
  match piece with
  | .startTag tag =>
    if tableParts.elem tag.name then
      if ← leave then return .again else return .done
    else inBody piece
  | .endTag name =>
    if name = "table".toList then
      if ← leave then return .again else return .done
    else if name = "caption".toList then
      let _ ← leave
      return .done
    else if (names "body col colgroup html tbody td tfoot th thead tr").elem name then return .done
    else inBody piece
  | _ => inBody piece

/-- A piece in a group of columns. -/
def inColumnGroup (piece : Piece) : Build Outcome := do
  let group := names "colgroup"
  let leave : Build Outcome := do
    if ← currentIs group then
      pop
      againIn .inTable
    else return .done
  match piece with
  | .space s => addText s; return .done
  | .comment s => addComment s; return .done
  | .startTag tag =>
    if tag.name = "html".toList then repeatedRoot tag; return .done
    else if tag.name = "col".toList then insertVoid tag; return .done
    else if tag.name = "template".toList then inHead piece
    else leave
  | .endTag name =>
    if name = "colgroup".toList then
      if ← currentIs group then
        pop
        setMode .inTable
      return .done
    else if name = "col".toList then return .done
    else if name = "template".toList then inHead piece
    else leave
  | .finish => inBody piece
  | _ => leave

/-- What a group of rows stands in, or is. -/
def bodyContext : List Text := names "tbody tfoot thead template html"

/-- A piece in a group of rows. -/
def inTableBody (piece : Piece) : Build Outcome := do
  let leave : Build Outcome := do
    if ← anyInScope tableBounds (names "tbody tfoot thead") then
      popUntilCurrent bodyContext
      pop
      againIn .inTable
    else return .done
  match piece with
  | .startTag tag =>
    if tag.name = "tr".toList then
      popUntilCurrent bodyContext
      let _ ← insert tag
      setMode .inRow
      return .done
    else if (names "th td").elem tag.name then
      popUntilCurrent bodyContext
      let _ ← insertImplied "tr".toList
      againIn .inRow
    else if (names "caption col colgroup tbody tfoot thead").elem tag.name then leave
    else inTable piece
  | .endTag name =>
    if (names "tbody tfoot thead").elem name then
      if ← inScope tableBounds name then
        popUntilCurrent bodyContext
        pop
        setMode .inTable
      return .done
    else if name = "table".toList then leave
    else if (names "body caption col colgroup html td th tr").elem name then return .done
    else inTable piece
  | _ => inTable piece

/-- What a row stands in, or is. -/
def rowContext : List Text := names "tr template html"

/-- A piece in a row. -/
def inRow (piece : Piece) : Build Outcome := do
  let leave : Build Bool := do
    if ← inScope tableBounds "tr".toList then
      popUntilCurrent rowContext
      pop
      setMode .inTableBody
      return true
    else return false
  match piece with
  | .startTag tag =>
    if (names "th td").elem tag.name then
      popUntilCurrent rowContext
      let _ ← insert tag
      setMode .inCell
      pushMarker
      return .done
    else if (names "caption col colgroup tbody tfoot thead tr").elem tag.name then
      if ← leave then return .again else return .done
    else inTable piece
  | .endTag name =>
    if name = "tr".toList then
      let _ ← leave
      return .done
    else if name = "table".toList then
      if ← leave then return .again else return .done
    else if (names "tbody tfoot thead").elem name then
      if ← inScope tableBounds name then
        if ← leave then return .again else return .done
      else return .done
    else if (names "body caption col colgroup html td th").elem name then return .done
    else inTable piece
  | _ => inTable piece

/-- A piece in a cell. -/
def inCell (piece : Piece) : Build Outcome := do
  let cells := names "td th"
  let leave : Build Outcome := do
    popWhile implied
    popUntil cells
    clearToMarker
    againIn .inRow
  match piece with
  | .startTag tag =>
    if tableParts.elem tag.name then
      if ← anyInScope tableBounds cells then leave else return .done
    else inBody piece
  | .endTag name =>
    if cells.elem name then
      if ← inScope tableBounds name then
        popWhile implied
        popUntil [name]
        clearToMarker
        setMode .inRow
      return .done
    else if (names "body caption col colgroup html").elem name then return .done
    else if (names "table tbody tfoot thead tr").elem name then
      if ← inScope tableBounds name then leave else return .done
    else inBody piece
  | _ => inBody piece

/-- Ends the innermost list of options. -/
def endSelect : Build Unit := do
  popUntil [ "select".toList ]
  resetMode

/-- A piece in a list of options. -/
def inSelect (piece : Piece) : Build Outcome := do
  let option := names "option"
  let group := names "optgroup"
  match piece with
  | .null => return .done
  | .space s | .text s => addText s; return .done
  | .comment s => addComment s; return .done
  | .startTag tag =>
    let is (s : String) : Bool := tag.name == s.toList
    if is "html" then repeatedRoot tag
    else if is "option" then
      if ← currentIs option then pop
      let _ ← insert tag
    else if is "optgroup" then
      if ← currentIs option then pop
      if ← currentIs group then pop
      let _ ← insert tag
    else if is "hr" then
      if ← currentIs option then pop
      if ← currentIs group then pop
      insertVoid tag
    else if is "select" then
      if ← inSelectScope tag.name then endSelect
    else if (names "input keygen textarea").elem tag.name then
      if ← inSelectScope "select".toList then
        endSelect
        return .again
    else if (names "script template").elem tag.name then return ← inHead piece
    return .done
  | .endTag name =>
    let is (s : String) : Bool := name == s.toList
    if is "optgroup" then
      match (← get).opened with
      | i :: j :: _ =>
        if (← isAnyOf i option) && (← isAnyOf j group) then pop
      | _ => pure ()
      if ← currentIs group then pop
    else if is "option" then
      if ← currentIs option then pop
    else if is "select" then
      if ← inSelectScope name then endSelect
    else if is "template" then return ← inHead piece
    return .done
  | .finish => inBody piece

/-- A piece in a list of options that is in a table. -/
def inSelectInTable (piece : Piece) : Build Outcome := do
  let parts := names "caption table tbody tfoot thead tr td th"
  match piece with
  | .startTag tag =>
    if parts.elem tag.name then
      endSelect
      return .again
    else inSelect piece
  | .endTag name =>
    if parts.elem name then
      if ← inScope tableBounds name then
        endSelect
        return .again
      else return .done
    else inSelect piece
  | _ => inSelect piece

/-- A piece in a template, whose mode depends on what comes first in it. -/
def inTemplate (piece : Piece) : Build Outcome := do
  let turn (mode : Mode) : Build Outcome := do
    modify fun b => { b with templateModes := mode :: b.templateModes.drop 1 }
    againIn mode
  match piece with
  | .startTag tag =>
    let oneOf (s : String) : Bool := (names s).elem tag.name
    if headElements.elem tag.name then inHead piece
    else if oneOf "caption colgroup tbody tfoot thead" then turn .inTable
    else if oneOf "col" then turn .inColumnGroup
    else if oneOf "tr" then turn .inTableBody
    else if oneOf "td th" then turn .inRow
    else turn .inBody
  | .endTag name => if name = "template".toList then inHead piece else return .done
  | _ => inBody piece

end Extraction.Markup.Build
