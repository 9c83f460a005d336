import Extraction.Markup.Reference

/-!
# Tokens of markup

Markup is read token by token: text, tags, comments and document types. What text looks like
depends on the element it stands in, which the reader of the tokens knows: in most elements
references and tags are read, in some only the end tag of the element counts.

## Main definitions

* `Markup.Token`: the tokens
* `Markup.TextKind`: how the text that comes next is read
* `Markup.next?`: the token at the start of a text, and what follows it
* `Markup.cleaned`: a text as it is read, with its line ends made equal
-/

namespace Extraction.Markup

/-- A tag: its name in small letters, its attributes, each name once, and whether a slash stands
before its end. -/
structure Tag where
  name : Text
  attributes : List (Text × Text)
  selfClosing : Bool

/-- A document type: its name, its two identifiers, and whether it is malformed. -/
structure Doctype where
  name : Text
  publicId : Option Text
  systemId : Option Text
  malformed : Bool

/-- The tokens. -/
inductive Token where
  | text (s : Text)
  /-- A null character in the source. -/
  | null
  | startTag (tag : Tag)
  | endTag (name : Text)
  | comment (s : Text)
  | doctype (d : Doctype)

/-- How the text that comes next is read. -/
inductive TextKind where
  /-- With tags and references. -/
  | ordinary
  /-- With references, up to the end tag of this name. -/
  | referencesOnly (name : Text)
  /-- As it stands, up to the end tag of this name. -/
  | raw (name : Text)
  /-- As a script, up to its end tag. -/
  | script
  /-- As it stands, up to the end. -/
  | plain

/-- The blanks of markup. -/
def isSpace (c : Char) : Bool :=
  c == '\t' || c == '\n' || c.toNat == 12 || c == '\r' || c == ' '

/-- What stands for a null character where one is kept. -/
def replacement : Char := Char.ofNat 0xFFFD

/-- The text with its null characters replaced. -/
def withoutNull (s : Text) : Text := s.map fun c => if c.toNat = 0 then replacement else c

/-- The text with every line end made a line feed. -/
def unifyLines : Text → Text
  | '\r' :: '\n' :: rest => '\n' :: unifyLines rest
  | '\r' :: rest => '\n' :: unifyLines rest
  | c :: rest => c :: unifyLines rest
  | [] => []

/-- The text as it is read: a byte order mark in front is dropped and line ends are made equal. -/
def cleaned (s : Text) : Text :=
  unifyLines <| match s with
    | c :: rest => if c.toNat = 0xFEFF then rest else s
    | [] => []

/-! ### Tags -/

/-- Whether a character ends the name of a tag. -/
def endsName (c : Char) : Bool := isSpace c || c == '/' || c == '>'

/-- The value of an attribute at the start of a text, and what follows it; none if the text ends
first. -/
def attributeValue? (s : Text) : Option (Text × Text) :=
  let read (raw : Text) : Text := Reference.readAll raw.length (withoutNull raw)
  let quoted (quote : Char) (s : Text) : Option (Text × Text) :=
    match s.dropWhile (· != quote) with
    | _ :: rest => some (read (s.takeWhile (· != quote)), rest)
    | [] => none
  match s with
  | [] => none
  | '"' :: rest => quoted '"' rest
  | '\'' :: rest => quoted '\'' rest
  | s =>
    let isEnd (c : Char) : Bool := isSpace c || c == '>'
    match s.dropWhile (!isEnd ·) with
    | [] => none
    | rest => some (read (s.takeWhile (!isEnd ·)), rest)

/-- The attributes added, unless the name is there already. -/
def addAttribute (attributes : List (Text × Text)) (name value : Text) : List (Text × Text) :=
  if attributes.any (·.1 == name) then attributes else attributes ++ [(name, value)]

/-- The attributes at the start of a text up to the end of the tag, whether a slash stands before
it, and what follows it; none if the text ends first. The fuel is the length of the text. -/
def attributes? : (fuel : Nat) → List (Text × Text) → Text →
    Option (List (Text × Text) × Bool × Text)
  | 0, _, _ => none
  | _ + 1, _, [] => none
  | fuel + 1, found, c :: rest =>
    if isSpace c then attributes? fuel found rest
    else if c = '>' then some (found, false, rest)
    else if c = '/' then
      match rest with
      | '>' :: rest => some (found, true, rest)
      | rest => attributes? fuel found rest
    else
      let goesOn (c : Char) : Bool := !(endsName c || c == '=')
      let name := withoutNull (c.toLower :: Text.lowerAscii (rest.takeWhile goesOn))
      match (rest.dropWhile goesOn).dropWhile isSpace with
      | '=' :: rest =>
        match rest.dropWhile isSpace with
        | '>' :: rest => some (addAttribute found name [], false, rest)
        | rest =>
          match attributeValue? rest with
          | none => none
          | some (value, rest) => attributes? fuel (addAttribute found name value) rest
      | rest => attributes? fuel (addAttribute found name []) rest

/-- The tag whose name the text begins with, and what follows it; none if the text ends first. -/
def tag? (s : Text) : Option (Tag × Text) :=
  let name := withoutNull (Text.lowerAscii (s.takeWhile (!endsName ·)))
  (attributes? (s.length + 1) [] (s.dropWhile (!endsName ·))).map fun (found, slash, rest) =>
    (⟨name, found, slash⟩, rest)

/-! ### Comments and document types -/

/-- The text of a comment after its start, and what follows its end. -/
def comment (s : Text) : Text × Text :=
  match s with
  | '>' :: rest | '-' :: '>' :: rest => ([], rest)
  | s => go s
where
  /-- The text up to the end of the comment. Where the text ends first, hyphens at its end do not
  count. -/
  go : Text → Text × Text
    | '-' :: '-' :: '>' :: rest | '-' :: '-' :: '!' :: '>' :: rest => ([], rest)
    | [] | ['-'] | ['-', '-'] | ['-', '-', '!'] => ([], [])
    | c :: rest =>
      let (more, after) := go rest
      ((if c.toNat = 0 then replacement else c) :: more, after)

/-- A malformed piece that counts as a comment, up to the next closing bracket. -/
def bogusComment (s : Text) : Token × Text :=
  (.comment (withoutNull (s.takeWhile (· != '>'))), (s.dropWhile (· != '>')).drop 1)

/-- An identifier in quotes at the start of a text, and what follows it; none if there is no quote.
Where the closing quote is missing it ends at the closing bracket. -/
def identifier? (s : Text) : Option (Text × Text × Bool) :=
  match s with
  | q :: rest =>
    if q = '"' ∨ q = '\'' then
      let body := rest.takeWhile fun c => c != q && c != '>'
      match rest.drop body.length with
      | c :: after => some (withoutNull body, if c = q then after else c :: after, c == q)
      | [] => some (withoutNull body, [], false)
    else none
  | [] => none

/-- A document type from what follows its keyword up to the closing bracket. -/
def readDoctype (s : Text) (closed : Bool) : Doctype :=
  let s := s.dropWhile isSpace
  let name := withoutNull (Text.lowerAscii (s.takeWhile (!isSpace ·)))
  let rest := (s.dropWhile (!isSpace ·)).dropWhile isSpace
  if name.isEmpty then ⟨[], none, none, true⟩
  else if rest.isEmpty then ⟨name, none, none, !closed⟩
  else
    match Text.dropPrefixIgnoreCase? "public".toList rest with
    | some after =>
      match identifier? (after.dropWhile isSpace) with
      | some (publicId, rest, true) =>
        match rest.dropWhile isSpace with
        | [] => ⟨name, some publicId, none, !closed⟩
        | rest =>
          match identifier? rest with
          | some (systemId, _, ended) => ⟨name, some publicId, some systemId, !(ended && closed)⟩
          | none => ⟨name, some publicId, none, true⟩
      | some (publicId, _, false) => ⟨name, some publicId, none, true⟩
      | none => ⟨name, none, none, true⟩
    | none =>
      match Text.dropPrefixIgnoreCase? "system".toList rest with
      | some after =>
        match identifier? (after.dropWhile isSpace) with
        | some (systemId, _, ended) => ⟨name, none, some systemId, !(ended && closed)⟩
        | none => ⟨name, none, none, true⟩
      | none => ⟨name, none, none, true⟩

/-- The token after `<!`. Sections of character data are read where `sections` says so. -/
def declaration (sections : Bool) (s : Text) : Token × Text :=
  match s with
  | '-' :: '-' :: rest =>
    let (body, rest) := comment rest
    (.comment body, rest)
  | s =>
    match Text.dropPrefixIgnoreCase? "doctype".toList s with
    | some rest =>
      let after := rest.dropWhile (· != '>')
      (.doctype (readDoctype (rest.takeWhile (· != '>')) !after.isEmpty), after.drop 1)
    | none =>
      match "[CDATA[".toList.isPrefixOf? s with
      | some rest =>
        if sections then
          match Text.splitOnce? "]]>".toList rest with
          | some (body, after) => (.text body, after)
          | none => (.text rest, [])
        else bogusComment s
      | none => bogusComment s

/-! ### Text that only an end tag ends -/

/-- Whether the text begins with the end tag of this name. -/
def beginsEndTag (name s : Text) : Bool :=
  match Text.dropPrefixIgnoreCase? ('<' :: '/' :: name) s with
  | some (c :: _) => endsName c
  | _ => false

/-- The text up to the end tag of this name, and what follows. -/
def untilEndTag (name : Text) : Text → Text × Text
  | [] => ([], [])
  | c :: rest =>
    if beginsEndTag name (c :: rest) then ([], c :: rest)
    else
      let (body, after) := untilEndTag name rest
      (c :: body, after)

/-- Where in a script a reader is: outside comments, in a comment, or in a script inside a comment;
and how many hyphens, two at most, stand just before. -/
inductive ScriptPlace where
  | outside
  | comment (hyphens : Nat)
  | nested (hyphens : Nat)

/-- Whether the text goes on with `script` as a whole name. -/
def namesScript (s : Text) : Bool :=
  match Text.dropPrefixIgnoreCase? "script".toList s with
  | some (c :: _) => endsName c
  | _ => false

/-- The place after a character that is no bracket. -/
def ScriptPlace.after (c : Char) : ScriptPlace → ScriptPlace
  | outside => outside
  | comment n => if c = '-' then comment (min 2 (n + 1)) else comment 0
  | nested n => if c = '-' then nested (min 2 (n + 1)) else nested 0

/-- A script up to its end tag, and what follows. In a comment the start tag of a script makes the
next end tag part of the script. -/
def untilScriptEnd (place : ScriptPlace) : Text → Text × Text
  | [] => ([], [])
  | c :: rest =>
    let step (place : ScriptPlace) : Text × Text :=
      let (body, after) := untilScriptEnd place rest
      (c :: body, after)
    match place, c with
    | .nested _, '<' =>
      step (match rest with
        | '/' :: name => if namesScript name then .comment 0 else .nested 0
        | _ => .nested 0)
    | .outside, '<' =>
      if beginsEndTag "script".toList (c :: rest) then ([], c :: rest)
      else step (if "!--".toList.isPrefixOf rest then .comment 0 else .outside)
    | .comment _, '<' =>
      if beginsEndTag "script".toList (c :: rest) then ([], c :: rest)
      else step (if namesScript rest then .nested 0 else .comment 0)
    | .comment n, '>' => step (if n = 2 then .outside else .comment 0)
    | .nested n, '>' => step (if n = 2 then .outside else .nested 0)
    | place, c => step (place.after c)

/-! ### Tokens -/

/-- The token after an opening bracket; none if the bracket begins a tag that the text ends in. -/
def bracket? (sections : Bool) (s : Text) : Option (Token × Text) :=
  match s with
  | '!' :: rest => some (declaration sections rest)
  | '?' :: _ => some (bogusComment s)
  | '/' :: rest =>
    match rest with
    | [] => some (.text ['<', '/'], [])
    | '>' :: rest => some (.text [], rest)
    | c :: _ =>
      if c.isAlpha then (tag? rest).map fun (tag, rest) => (.endTag tag.name, rest)
      else some (bogusComment rest)
  | c :: _ =>
    if c.isAlpha then (tag? s).map fun (tag, rest) => (.startTag tag, rest)
    else some (.text ['<'], s)
  | [] => some (.text ['<'], [])

/-- The token of text at the start of a text with references, which begins with no bracket. -/
def referencedText (keepNull : Bool) (s : Text) : Token × Text :=
  match s with
  | '&' :: rest =>
    match Reference.read? false rest with
    | some (text, rest) => (.text text, rest)
    | none => (.text ['&'], rest)
  | c :: rest =>
    if c.toNat = 0 then (if keepNull then .null else .text [replacement], rest)
    else
      let goesOn (c : Char) : Bool := !(c == '&' || c == '<' || c.toNat == 0)
      (.text (c :: rest.takeWhile goesOn), rest.dropWhile goesOn)
  | [] => (.text [], [])

/-- The token at the start of a text, and what follows it; none where no token is left. -/
def next? (kind : TextKind) (sections : Bool) (s : Text) : Option (Token × Text) :=
  match kind, s with
  | _, [] => none
  | .ordinary, '<' :: rest => bracket? sections rest
  | .ordinary, s => some (referencedText true s)
  | .plain, s => some (.text (withoutNull s), [])
  | .referencesOnly name, c :: rest =>
    if beginsEndTag name (c :: rest) then bracket? sections rest
    else if c = '<' then some (.text ['<'], rest)
    else some (referencedText false (c :: rest))
  | .raw name, c :: rest =>
    if beginsEndTag name (c :: rest) then bracket? sections rest
    else
      let (body, after) := untilEndTag name (c :: rest)
      some (.text (withoutNull body), after)
  | .script, c :: rest =>
    if beginsEndTag "script".toList (c :: rest) then bracket? sections rest
    else
      let (body, after) := untilScriptEnd .outside (c :: rest)
      some (.text (withoutNull body), after)

end Extraction.Markup
