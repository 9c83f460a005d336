import Extraction.Markup.Token

/-!
# Plain text of markup

Markup reduced to text without building a tree of it: all references decoded, or paragraphs with an
indent.

## Main definitions

* `Markup.unescape`: a text with all references decoded
* `Markup.paragraphs`: the text of markup, a line for every paragraph
-/

namespace Extraction.Markup

/-- The text of the tokens from the start of a text, where only references are read. The fuel is
the length of the text. -/
def referencesText : (fuel : Nat) → Text → Text
  | 0, _ => []
  | fuel + 1, s =>
    match next? .ordinary false s with
    | some (.text t, rest) => t ++ referencesText fuel rest
    | some (_, rest) => referencesText fuel rest
    | none => []

/-- A text with all references decoded. Tags are text. -/
def unescape (s : Text) : Text :=
  let s := cleaned (s.flatMap fun c => if c = '<' then "&lt;".toList else [c])
  referencesText s.length s

/-- The tags that end a line. -/
def lineTags : List Text :=
  Text.words ("br p div li tr h1 h2 h3 h4 h5 h6 section article blockquote pre dd dt hr").toList

/-- The text of the tokens from the start of a text: a tag that ends a line is a line feed, and
scripts and styles, while `skipping`, give nothing. The fuel is the length of the text. -/
def visibleText : (fuel : Nat) → TextKind → (skipping : Bool) → Text → Text
  | 0, _, _, _ => []
  | fuel + 1, kind, skipping, s =>
    let line (name : Text) : Text := if lineTags.elem name then ['\n'] else []
    match next? kind false s with
    | none => []
    | some (.text t, rest) =>
      (if skipping then [] else t) ++ visibleText fuel kind skipping rest
    | some (.startTag tag, rest) =>
      if tag.name = "script".toList then visibleText fuel .script true rest
      else if tag.name = "style".toList then visibleText fuel (.raw tag.name) true rest
      else line tag.name ++ visibleText fuel .ordinary skipping rest
    | some (.endTag name, rest) =>
      if name = "script".toList ∨ name = "style".toList then visibleText fuel .ordinary false rest
      else line name ++ visibleText fuel .ordinary skipping rest
    | some (_, rest) => visibleText fuel kind skipping rest

/-- What stands before every paragraph. -/
def indent : Text := [Char.ofNat 0x3000, Char.ofNat 0x3000]

/-- The text of markup: its lines without blanks at either end, those that are not empty, each with
the indent. -/
def paragraphs (s : Text) : Text :=
  let s := cleaned s
  let lines := ((Text.lines (visibleText s.length .ordinary false s)).map Text.trim).filter
    (!·.isEmpty)
  ['\n'].intercalate (lines.map (indent ++ ·))

end Extraction.Markup
