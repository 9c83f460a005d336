import Extraction.Css.Selector

/-!
# Reading selectors

A selector is read character by character. Brackets and quotes that the text leaves open are closed
at its end.

## Main definitions

* `Css.parse?`: the selectors that a text lists; none if it is malformed or names what is not
  supported
-/

namespace Extraction.Css

/-- A reader takes a text to what it has read and the rest. -/
abbrev Reader (α : Type) := Text → Option (α × Text)

/-! ### Words -/

/-- Blanks between tokens. -/
def isGap (c : Char) : Bool :=
  c == ' ' || c == '\t' || c == '\n' || c == '\r' || c.toNat == 12

/-- The text without comments in front. The fuel is the length of the text. -/
def dropComments : (fuel : Nat) → Text → Text
  | 0, s => s
  | fuel + 1, '/' :: '*' :: rest =>
    match Text.splitOnce? ['*', '/'] rest with
    | some (_, after) => dropComments fuel after
    | none => []
  | _ + 1, s => s

/-- The text at the next token. -/
def atToken (s : Text) : Text := dropComments s.length s

/-- The text without blanks and comments in front. The fuel is the length of the text. -/
def dropGapsFrom : (fuel : Nat) → Text → Text
  | 0, s => s
  | fuel + 1, s =>
    match atToken s with
    | c :: rest => if isGap c then dropGapsFrom fuel rest else c :: rest
    | [] => []

/-- The text without blanks and comments in front. -/
def dropGaps (s : Text) : Text := dropGapsFrom s.length s

/-- Whether a backslash with this text after it is an escape. -/
def isEscape (s : Text) : Bool :=
  match s with
  | c :: _ => !(c == '\n' || c == '\r' || c.toNat == 12)
  | [] => true

/-- What stands for a number that is no character's. -/
def replacement : Char := Char.ofNat 0xFFFD

/-- The character that an escape stands for, its backslash apart, and what follows it. -/
def escape (s : Text) : Char × Text :=
  let digits := (s.take 6).takeWhile fun c => (Text.digitValue? 16 c).isSome
  match Text.digits? 16 digits with
  | some n =>
    let rest := match s.drop digits.length with
      | '\r' :: '\n' :: rest => rest
      | c :: rest => if isGap c then rest else c :: rest
      | [] => []
    (if n = 0 ∨ ¬ n.isValidChar then replacement else Char.ofNat n, rest)
  | none =>
    match s with
    | c :: rest => (if c.toNat = 0 then replacement else c, rest)
    | [] => (replacement, [])

/-- Whether a character may stand in a name, the first place apart. -/
def isNameChar (c : Char) : Bool :=
  c.isAlphanum || c == '-' || c == '_' || c.toNat == 0 || 128 ≤ c.toNat

/-- The characters of a name at the start of a text. The fuel is the length of the text. -/
def nameChars : (fuel : Nat) → Text → Text × Text
  | 0, s => ([], s)
  | fuel + 1, '\\' :: rest =>
    if isEscape rest then
      let (c, rest) := escape rest
      let (name, rest) := nameChars fuel rest
      (c :: name, rest)
    else ([], '\\' :: rest)
  | fuel + 1, c :: rest =>
    if isNameChar c then
      let (name, rest) := nameChars fuel rest
      ((if c.toNat = 0 then replacement else c) :: name, rest)
    else ([], c :: rest)
  | _ + 1, [] => ([], [])

/-- Whether a name begins here: with a letter, not a digit, before which a hyphen may stand. -/
def startsName (s : Text) : Bool :=
  let isStart (c : Char) : Bool := isNameChar c && !c.isDigit && c != '-'
  match s with
  | '\\' :: rest => isEscape rest
  | '-' :: '\\' :: rest => isEscape rest
  | '-' :: c :: _ => isStart c || c == '-'
  | c :: _ => isStart c
  | [] => false

/-- A name. -/
def name : Reader Text := fun s => if startsName s then some (nameChars s.length s) else none

/-- The text of a string after its opening quote, up to the closing one or the end. A line does not
end in a string. The fuel is the length of the text. -/
def quoted (quote : Char) : (fuel : Nat) → Reader Text
  | 0, s => some ([], s)
  | _ + 1, [] => some ([], [])
  | fuel + 1, '\\' :: rest =>
    match rest with
    | [] => some ([], [])
    | '\r' :: '\n' :: rest => quoted quote fuel rest
    | _ :: more =>
      if isEscape rest then
        let (d, rest) := escape rest
        (quoted quote fuel rest).map fun (body, after) => (d :: body, after)
      else quoted quote fuel more
  | fuel + 1, c :: rest =>
    if c = quote then some ([], rest)
    else if !isEscape [c] then none
    else (quoted quote fuel rest).map fun (body, after) =>
      ((if c.toNat = 0 then replacement else c) :: body, after)

/-! ### Attributes -/

/-- The end of a bracket: its closing character, or the end of the text. -/
def close (closer : Char) (s : Text) : Option Text :=
  match dropGaps s with
  | [] => some []
  | c :: rest => if c = closer then some rest else none

/-- Attributes whose values are compared without regard to case unless a selector says so. -/
def caselessAttributes : List Text :=
  Text.words ("accept accept-charset align alink axis bgcolor charset checked clear codetype color
    compact declare defer dir direction disabled enctype face frame hreflang http-equiv lang
    language link media method multiple nohref noresize noshade nowrap readonly rel rev rules scope
    scrolling selected shape target text type valign valuetype vlink").toList

/-- How values are compared, by the sign for it. -/
def comparison? (s : Text) : Option (Comparison × Text) :=
  match s with
  | '=' :: rest => some (.equal, rest)
  | '~' :: '=' :: rest => some (.word, rest)
  | '|' :: '=' :: rest => some (.dash, rest)
  | '^' :: '=' :: rest => some (.start, rest)
  | '$' :: '=' :: rest => some (.finish, rest)
  | '*' :: '=' :: rest => some (.part, rest)
  | _ => none

/-- A value: a name or a string. -/
def value : Reader Text := fun s =>
  match s with
  | '"' :: rest => quoted '"' rest.length rest
  | '\'' :: rest => quoted '\'' rest.length rest
  | s => name s

/-- The name of an attribute, with `*|` or `|` in front or not. -/
def attributeName : Reader Text := fun s =>
  match s with
  | '*' :: '|' :: rest => name rest
  | '|' :: rest => name rest
  | s =>
    (name s).bind fun (n, rest) =>
      match rest with
      | '|' :: '=' :: _ => some (n, rest)
      | '|' :: _ => none
      | _ => some (n, rest)

/-- A test of an attribute after its opening bracket. -/
def attributeTest : Reader Simple := fun s => do
  let (label, rest) ← attributeName (dropGaps s)
  match dropGaps rest with
  | [] => return (.hasAttribute label none, [])
  | ']' :: rest => return (.hasAttribute label none, rest)
  | rest =>
    let (comparison, rest) ← comparison? rest
    let (v, rest) ← value (dropGaps rest)
    let caseRule :=
      if caselessAttributes.elem (Text.lowerAscii label) then CaseRule.ignoredInHtml else .exact
    match dropGaps rest with
    | [] => return (.hasAttribute label (some ⟨comparison, v, caseRule⟩), [])
    | ']' :: rest => return (.hasAttribute label (some ⟨comparison, v, caseRule⟩), rest)
    | rest =>
      let (flag, rest) ← name rest
      let flag := Text.lowerAscii flag
      let rest ← close ']' rest
      if flag = ['i'] then return (.hasAttribute label (some ⟨comparison, v, .ignored⟩), rest)
      else if flag = ['s'] then return (.hasAttribute label (some ⟨comparison, v, .exact⟩), rest)
      else none

/-! ### Positions -/

/-- A number of 32 bits, from its digits and whether it is negative. -/
def bounded (negative : Bool) (digits : Text) : Option Int :=
  (Text.digits? 10 digits).map fun n =>
    if negative then - Int.ofNat (min n 0x80000000) else Int.ofNat (min n 0x7FFFFFFF)

/-- A sign, if there is one: whether it is a minus sign. -/
def sign (s : Text) : Bool × Text :=
  match s with
  | '+' :: rest => (false, rest)
  | '-' :: rest => (true, rest)
  | s => (false, s)

/-- The offset after a step: a sign with blanks around it and a number; zero if there is none. -/
def offset : Reader Int := fun s =>
  match dropGaps s with
  | c :: rest =>
    if c = '+' || c = '-' then
      let rest := dropGaps rest
      let digits := rest.takeWhile Char.isDigit
      (bounded (c == '-') digits).map fun n => (n, rest.drop digits.length)
    else some (0, s)
  | [] => some (0, s)

/-- A step and an offset: `even`, `odd`, a number, or a multiple of `n` and a number. -/
def position : Reader (Int × Int) := fun s =>
  let s := dropGaps s
  let word := Text.lowerAscii (s.takeWhile isNameChar)
  if word = "even".toList then some ((2, 0), s.drop 4)
  else if word = "odd".toList then some ((2, 1), s.drop 3)
  else
    let (negative, rest) := sign s
    let digits := rest.takeWhile Char.isDigit
    match rest.drop digits.length with
    | c :: rest =>
      if c = 'n' || c = 'N' then
        let step := if digits.isEmpty then some (if negative then -1 else 1) else bounded negative digits
        match step, rest with
        | some step, d :: _ =>
          if isNameChar d && d != '-' then none
          else (offset rest).map fun (n, rest) => ((step, n), rest)
        | some step, [] => some ((step, 0), [])
        | none, _ => none
      else if isNameChar c then none
      else (bounded negative digits).map fun n => ((0, n), c :: rest)
    | [] => (bounded negative digits).map fun n => ((0, n), [])

/-! ### Selectors -/

/-- The text after a malformed selector in a list that forgives, at a comma or before the closing
bracket; none where brackets or quotes do not fit. `closers` are the brackets to be closed. The
fuel is the length of the text. -/
def skip : (fuel : Nat) → (closers : List Char) → Text → Option Text
  | 0, _, s => some s
  | _ + 1, _, [] => some []
  | fuel + 1, closers, c :: rest =>
    let openWith (closer : Char) : Option Text := skip fuel (closer :: closers) rest
    match c with
    | '(' => openWith ')'
    | '[' => openWith ']'
    | '\x7b' => openWith '\x7d'
    | '"' | '\'' => (quoted c rest.length rest).bind fun (_, after) => skip fuel closers after
    | '\\' => skip fuel closers (if isEscape rest then (escape rest).2 else rest)
    | _ =>
      if c = ')' || c = ']' || c = '\x7d' then
        match closers with
        | d :: closers => if c = d then skip fuel closers rest else none
        | [] => if c = ')' then some (c :: rest) else none
      else if c = ',' && closers.isEmpty then some (c :: rest)
      else skip fuel closers rest

/-- The sign between two compounds, and the text after it. -/
def combinator? (s : Text) : Option (Combinator × Text) :=
  match s with
  | '>' :: rest => some (.child, dropGaps rest)
  | '+' :: rest => some (.next, dropGaps rest)
  | '~' :: rest => some (.later, dropGaps rest)
  | _ => none

/-- The test of a name of an element at the start of a compound, if there is one: no test for `*`. -/
def labelTest : Reader (Option (List Simple)) := fun s =>
  let local_ (none? : Bool) (rest : Text) : Option (Option (List Simple) × Text) :=
    match rest with
    | '*' :: rest => some (some (if none? then [.anyOf []] else []), rest)
    | rest => (name rest).bind fun (n, rest) =>
      if rest.head? = some '(' then none
      else some (some (if none? then [.anyOf []] else [.label n]), rest)
  match atToken s with
  | '*' :: '|' :: rest => local_ false rest
  | '|' :: rest => local_ true rest
  | '*' :: rest => some (some [], rest)
  | s =>
    match name s with
    | none => some (none, s)
    | some (n, rest) =>
      if rest.head? = some '(' || rest.head? = some '|' then none else some (some [.label n], rest)

/-- The pseudo-classes without arguments. -/
def plainClass? (name : Text) : Option Simple :=
  let is (s : String) : Bool := Text.lowerAscii name == s.toList
  let only (ofType : Bool) : Simple :=
    .anyOf [.compound [.nth ofType false 0 1, .nth ofType true 0 1]]
  if is "root" then some .root
  else if is "empty" then some .empty
  else if is "scope" then some .scope
  else if is "first-child" then some (.nth false false 0 1)
  else if is "last-child" then some (.nth false true 0 1)
  else if is "only-child" then some (only false)
  else if is "first-of-type" then some (.nth true false 0 1)
  else if is "last-of-type" then some (.nth true true 0 1)
  else if is "only-of-type" then some (only true)
  else none

/-- The pseudo-classes that take a position: whether only siblings of the same name count, and
whether they are counted from the end. -/
def countingClass? (name : Text) : Option (Bool × Bool) :=
  let is (s : String) : Bool := Text.lowerAscii name == s.toList
  if is "nth-child" then some (false, false)
  else if is "nth-of-type" then some (true, false)
  else if is "nth-last-child" then some (false, true)
  else if is "nth-last-of-type" then some (true, true)
  else none

/-- How the selectors in a list are read. -/
structure ListForm where
  /-- Whether a malformed one is left out. -/
  forgiving : Bool
  /-- Whether each is relative to an element. -/
  relative : Bool
  /-- Whether a bracket ends the list. -/
  inBracket : Bool
  /-- Whether a relative list may stand in it. -/
  allowsHas : Bool

mutual

/-- A test that begins with a colon, after it. -/
def classTest (fuel : Nat) (allowsHas : Bool) (s : Text) : Option (Simple × Text) :=
  match fuel with
  | 0 => none
  | fuel + 1 => do
    let (label, rest) ← name s
    match rest with
    | '(' :: rest =>
      let is (s : String) : Bool := Text.lowerAscii label == s.toList
      match countingClass? label with
      | some (ofType, fromEnd) =>
        let ((step, offset), rest) ← position rest
        return (.nth ofType fromEnd step offset, ← close ')' rest)
      | none =>
        let (test, form) ←
          if is "not" then some (Simple.noneOf, ListForm.mk false false true allowsHas)
          else if is "is" || is "where" then some (Simple.anyOf, ListForm.mk true false true allowsHas)
          else if is "has" && allowsHas then some (Simple.has, ListForm.mk false true true false)
          else none
        let (selectors, rest) ← list fuel form rest
        return (test selectors, rest)
    | rest => return (← plainClass? label, rest)

/-- The tests of a compound after its name. -/
def tests (fuel : Nat) (allowsHas : Bool) (s : Text) : Option (List Simple × Text) :=
  match fuel with
  | 0 => none
  | fuel + 1 => do
    let found? ← match atToken s with
      | '#' :: rest => do
        let (n, rest) ← name rest
        pure (some (Simple.id n, rest))
      | '.' :: rest => do
        let (n, rest) ← name rest
        if rest.head? = some '(' then none
        pure (some (Simple.hasClass n, rest))
      | '[' :: rest => do pure (some (← attributeTest rest))
      | ':' :: rest => do pure (some (← classTest fuel allowsHas rest))
      | _ => pure none
    match found? with
    | none => return ([], atToken s)
    | some (test, rest) =>
      let (more, rest) ← tests fuel allowsHas rest
      return (test :: more, rest)

/-- A compound, which is not empty. -/
def compound (fuel : Nat) (allowsHas : Bool) (s : Text) : Option (List Simple × Text) :=
  match fuel with
  | 0 => none
  | fuel + 1 => do
    let (label?, rest) ← labelTest s
    let (more, rest) ← tests fuel allowsHas rest
    match label? with
    | none => if more.isEmpty then none else return (more, rest)
    | some tests => return (tests ++ more, rest)

/-- What follows a compound: combinators with further compounds. -/
def continued (fuel : Nat) (allowsHas : Bool) (left : Complex) (s : Text) : Option (Complex × Text) :=
  match fuel with
  | 0 => none
  | fuel + 1 =>
    let rest := dropGaps s
    let next (c : Combinator) (rest : Text) : Option (Complex × Text) := do
      let (tests, rest) ← compound fuel allowsHas rest
      continued fuel allowsHas (.after left c tests) rest
    match combinator? rest with
    | some (c, rest) => next c rest
    | none =>
      match rest with
      | [] => some (left, rest)
      | c :: _ =>
        if c = ',' || c = ')' || rest.length = (atToken s).length then some (left, rest)
        else next .descendant rest

/-- A selector. -/
def complex (fuel : Nat) (form : ListForm) (s : Text) : Option (Complex × Text) :=
  match fuel with
  | 0 => none
  | fuel + 1 => do
    let rest := dropGaps s
    if form.relative then
      let (c, rest) := (combinator? rest).getD (.descendant, rest)
      let (tests, rest) ← compound fuel form.allowsHas rest
      continued fuel form.allowsHas (.after (.compound [.anchor]) c tests) rest
    else
      let (tests, rest) ← compound fuel form.allowsHas rest
      continued fuel form.allowsHas (.compound tests) rest

/-- A list of selectors with commas between them, up to the end or the closing bracket. -/
def list (fuel : Nat) (form : ListForm) (s : Text) : Option (List Complex × Text) :=
  match fuel with
  | 0 => none
  | fuel + 1 => do
    let ends (rest : Text) : Bool :=
      match rest with
      | [] => true
      | c :: _ => c == ',' || (c == ')' && form.inBracket)
    let (found, rest) ←
      match (complex fuel form s).filter fun (_, rest) => ends rest with
      | some (selector, rest) => some ([selector], rest)
      | none => if form.forgiving then (skip s.length [] s).map ([], ·) else none
    match rest with
    | ',' :: rest =>
      let (more, rest) ← list fuel form rest
      return (found ++ more, rest)
    | rest => return (found, rest.drop 1)

end

/-- The selectors that a text lists. Every step of reading goes at most eight steps deep for one
character. -/
def parse? (s : Text) : Option (List Complex) :=
  (list (8 * s.length + 16) ⟨false, false, false, true⟩ s).map Prod.fst

end Extraction.Css
