import Extraction.Markup.Builder.State

/-!
# Formatting elements

Elements such as `b` and `a` go on where the element around them ends. A list of them says which are
to be opened again; and where one ends out of order, the nodes in between are rearranged.

## Main definitions

* `Build.reconstruct`: opens again the formatting elements that go on
* `Build.insertFormatting`: adds a formatting element
* `Build.endFormatting`: ends the formatting elements of a name
-/

namespace Extraction.Markup.Build

/-- The formatting elements after the last marker, the last one first. -/
def activeFormatting : Build (List (Nat × Tag)) :=
  return ((← get).formatting.takeWhile Option.isSome).filterMap id

/-- Whether a node is on the list of formatting elements. -/
def isFormatting (i : Nat) : Build Bool :=
  return (← get).formatting.any fun entry => (entry.map Prod.fst) == some i

/-- Takes a node off the list of formatting elements. -/
def removeFormatting (i : Nat) : Build Unit :=
  modify fun b => { b with formatting := b.formatting.filter fun entry => entry.map Prod.fst != some i }

/-- Puts a marker on the list: what is before it does not go on. -/
def pushMarker : Build Unit := modify fun b => { b with formatting := none :: b.formatting }

/-- Takes off the list what comes after the last marker, and the marker. -/
def clearToMarker : Build Unit :=
  modify fun b => { b with formatting := (b.formatting.dropWhile Option.isSome).drop 1 }

/-- Opens again the formatting elements after the last marker or open one. -/
def reconstruct : Build Unit := do
  let b ← get
  let stays (entry : Option (Nat × Tag)) : Bool :=
    match entry with
    | none => true
    | some (i, _) => b.opened.elem i
  let closed := b.formatting.takeWhile (!stays ·)
  let kept := b.formatting.dropWhile (!stays ·)
  let fresh ← closed.reverse.mapM fun entry => do
    match entry with
    | none => return none
    | some (_, tag) => return some (← insert tag, tag)
  modify fun b => { b with formatting := fresh.reverse ++ kept }

/-- Whether two tags have one name and the same attributes. -/
def sameTag (s t : Tag) : Bool :=
  s.name == t.name && s.attributes.length == t.attributes.length &&
    s.attributes.all fun a => t.attributes.elem a

/-- Adds a formatting element. Of more than three alike the earliest does not go on. -/
def insertFormatting (tag : Tag) : Build Unit := do
  let alike := (← activeFormatting).filter fun (_, t) => sameTag t tag
  if 3 ≤ alike.length then
    match alike.getLast? with
    | some (i, _) => removeFormatting i
    | none => pure ()
  let i ← insert tag
  modify fun b => { b with formatting := some (i, tag) :: b.formatting }

/-- Elements that formatting does not pass by unnoticed. -/
def special : List Text :=
  names "address applet area article aside base basefont bgsound blockquote body br button caption
    center col colgroup dd details dir div dl dt embed fieldset figcaption figure footer form frame
    frameset h1 h2 h3 h4 h5 h6 head header hgroup hr html iframe img input isindex li link listing
    main marquee menu meta nav noembed noframes noscript object ol p param plaintext pre script
    section select source style summary table tbody td template textarea tfoot th thead title tr
    track ul wbr xmp"

/-- Ends an element that needs no care: the innermost one of this name and what is open inside it,
unless a special element comes first. -/
def endOrdinary (label : Text) : Build Unit := do
  let rec found : List Nat → Build Bool
    | [] => return false
    | i :: rest => do
      if ← isHtml i label then return true
      else if ← isAnyOf i special then return false
      else found rest
  if ← found (← get).opened then
    closeImpliedExcept label
    popUntil [label]

/-- Where the list of formatting elements takes the new element. -/
inductive Bookmark where
  | replacing (i : Nat)
  | after (i : Nat)

/-- Moves `last`, which holds the innermost special element, outwards past the open elements up to
the formatting element; those that go on are replaced by copies of themselves. `between` are the
open elements in between, from the innermost on. -/
def moveOutwards (block : Nat) : (between : List Nat) → (count last : Nat) → Bookmark →
    Build (Nat × Bookmark)
  | [], _, last, bookmark => return (last, bookmark)
  | node :: outer, count, last, bookmark => do
    let entry := (← get).formatting.find? fun entry => entry.map Prod.fst == some node
    match entry with
    | some (some (_, tag)) =>
      if 3 ≤ count then
        removeFormatting node
        removeOpen node
        moveOutwards block outer (count + 1) last bookmark
      else
        let copy ← create (.element ⟨.html, tag.name⟩ (plainAttributes tag))
        modify fun b => { b with
          opened := b.opened.map fun i => if i = node then copy else i
          formatting := b.formatting.map fun entry =>
            if entry.map Prod.fst = some node then some (copy, tag) else entry }
        let bookmark := if last = block then .after copy else bookmark
        place (.lastIn copy) last
        moveOutwards block outer (count + 1) copy bookmark
    | _ =>
      removeOpen node
      moveOutwards block outer (count + 1) last bookmark

/-- One round of ending the formatting elements of a name; whether another one may follow. -/
def endFormattingOnce (label : Text) : Build Bool := do
  match (← activeFormatting).find? fun (_, tag) => tag.name == label with
  | none =>
    endOrdinary label
    return false
  | some (element, tag) =>
    let opened := (← get).opened
    if !opened.elem element then
      removeFormatting element
      return false
    else if !(← inScopeBy scopeBounds fun i _ => i == element) then return false
    else
      let inner := opened.takeWhile (· != element)
      let specials ← inner.filterM (isAnyOf · special)
      match specials.getLast? with
      | none =>
        modify fun b => { b with opened := (b.opened.dropWhile (· != element)).drop 1 }
        removeFormatting element
        return false
      | some block =>
        let ancestor := ((opened.dropWhile (· != element)).drop 1).headD 0
        let between := (inner.dropWhile (· != block)).drop 1
        let (last, bookmark) ← moveOutwards block between 0 block (.replacing element)
        place (← do modify (fun b => { b with arena := b.arena.detach last }); targetIn ancestor) last
        let copy ← create (.element ⟨.html, tag.name⟩ (plainAttributes tag))
        modify fun b => { b with arena := b.arena.moveChildren block copy }
        place (.lastIn block) copy
        let entry := some (copy, tag)
        modify fun b => { b with
          formatting :=
            match bookmark with
            | .replacing i =>
              b.formatting.map fun e => if e.map Prod.fst = some i then entry else e
            | .after i =>
              (b.formatting.flatMap fun e =>
                if e.map Prod.fst = some i then [entry, e] else [e]).filter fun e =>
                  e.map Prod.fst != some element
          opened :=
            (b.opened.filter (· != element)).flatMap fun i =>
              if i = block then [copy, i] else [i] }
        return true

/-- Rounds of ending the formatting elements of a name, at most so many. -/
def endFormattingRounds (label : Text) : Nat → Build Unit
  | 0 => return
  | n + 1 => do if ← endFormattingOnce label then endFormattingRounds label n

/-- Ends the formatting elements of a name. Blocks that reach beyond the end are given copies of the
element inside. -/
def endFormatting (label : Text) : Build Unit := do
  let innermost ← current
  if (← isHtml innermost label) && !(← isFormatting innermost) then pop
  else endFormattingRounds label 8

/-- Ends the link that is still open when another one begins. -/
def endOpenLink : Build Unit := do
  match ← (← activeFormatting).findM? fun (i, _) => isHtml i ['a'] with
  | none => return
  | some (i, _) =>
    endFormatting ['a']
    removeFormatting i
    removeOpen i

end Extraction.Markup.Build
