import Extraction.Regex.Room
import Extraction.Text.CaseFold
import Extraction.Text.Properties

/-!
# Reading patterns

The syntax of regular expressions: alternation `|`, loops `*`, `+`, `?`, `{n}`, `{n,}`, `{n,m}` and
their lazy forms, groups `(..)`, `(?:..)`, `(?P<name>..)`, `(?<name>..)`, flags `(?i)` and
`(?i:..)`, classes `[..]` with the set operations `&&`, `--` and `~~`, the classes `\d`, `\s`,
`\w`, `\p{..}` and their complements, and the conditions `^`, `$`, `\b` and their like. There is
neither look-around nor a reference back to a group.

Characters are Unicode characters unless the flag `u` is off; then a class may only hold ASCII
characters.
-/

namespace Extraction.Regex

open Text (CharSet)

/-- The flags in force at a place of a pattern. -/
structure Flags where
  /-- `i`: letters of either case match. -/
  ignoreCase : Bool := false
  /-- `m`: the line conditions hold at every line. -/
  multiLine : Bool := false
  /-- `s`: a point matches a line feed. -/
  dotAll : Bool := false
  /-- `U`: loops are lazy, and a question mark makes them greedy. -/
  swapGreed : Bool := false
  /-- `u`: classes are those of Unicode. -/
  unicode : Bool := true
  /-- `R`: a line may end in a carriage return. -/
  carriageReturns : Bool := false
  /-- `x`: white space and comments between the parts of a pattern do not count. -/
  verbose : Bool := false

/-- What is left of a pattern while it is read. -/
structure Cursor where
  rest : Text
  flags : Flags := {}
  /-- How many groups have a number. -/
  groups : Nat := 0
  /-- The names of groups and their numbers. -/
  names : List (Text × Nat) := []

namespace Parser

/-- A reader that fails on a pattern it cannot read. -/
abbrev Reader := StateT Cursor Option

/-- The next character. -/
def peek : Reader (Option Char) := do return (← get).rest.head?

/-- Takes one character. -/
def bump : Reader Unit := modify fun c => { c with rest := c.rest.drop 1 }

/-- Skips white space and comments where they do not count. -/
def skipVerbose : (fuel : Nat) → Text → Text
  | 0, s => s
  | _ + 1, [] => []
  | fuel + 1, c :: cs =>
    if Text.isBlank c then skipVerbose fuel cs
    else if c = '#' then skipVerbose fuel ((cs.dropWhile (· != '\n')).drop 1)
    else c :: cs

/-- Skips white space and comments if the flags say so. -/
def space : Reader Unit := modify fun c =>
  if c.flags.verbose then { c with rest := skipVerbose c.rest.length c.rest } else c

/-- Takes one character and what does not count after it. -/
def bumpSpace : Reader Unit := do bump; space

/-- Takes the given text if it is next. -/
def accept (p : Text) : Reader Bool := do
  let c ← get
  match p.isPrefixOf? c.rest with
  | some rest => set { c with rest }; return true
  | none => return false

/-- Fails unless a condition holds. -/
def require (b : Bool) : Reader Unit := if b then return () else failure

/-- A pattern with the depth of its tree. -/
structure Piece where
  pattern : Pattern
  depth : Nat := 0

/-- How deep a tree may be. -/
def maxDepth : Nat := 250

/-- One level above pieces of a depth. -/
def deeper (n : Nat) : Reader Nat := do
  require (n < maxDepth)
  return n + 1

/-- The set closed under difference in case, if the flags say so. -/
def closeCase (f : Flags) (chars : CharSet) : CharSet :=
  if f.ignoreCase then chars.closeCase (!f.unicode) else chars

/-- The pattern of one character. -/
def charPattern (f : Flags) (n : Nat) : Pattern := .set (closeCase f (.single n))

/-- The ASCII digits. -/
def asciiDigit : CharSet := .between 48 57

/-- ASCII white space. -/
def asciiSpace : CharSet := .ofRanges [(9, 13), (32, 32)]

/-- The ASCII word characters. -/
def asciiWord : CharSet := .ofRanges [(48, 57), (65, 90), (95, 95), (97, 122)]

/-- The class that `\d`, `\s` or `\w` stands for. -/
def perlClass (unicode : Bool) (kind : Char) : CharSet :=
  if kind = 'd' then if unicode then Text.decimalTable.toCharSet else asciiDigit
  else if kind = 's' then if unicode then Text.blankTable.toCharSet else asciiSpace
  else if unicode then Text.wordTable.toCharSet else asciiWord

/-- The class that a name between `[:` and `:]` stands for. -/
def asciiClass? (name : Text) : Option CharSet :=
  let name := String.ofList name
  if name = "alnum" then some (.ofRanges [(48, 57), (65, 90), (97, 122)])
  else if name = "alpha" then some (.ofRanges [(65, 90), (97, 122)])
  else if name = "ascii" then some (.between 0 127)
  else if name = "blank" then some (.ofRanges [(9, 9), (32, 32)])
  else if name = "cntrl" then some (.ofRanges [(0, 31), (127, 127)])
  else if name = "digit" then some asciiDigit
  else if name = "graph" then some (.between 33 126)
  else if name = "lower" then some (.between 97 122)
  else if name = "print" then some (.between 32 126)
  else if name = "punct" then some (.ofRanges [(33, 47), (58, 64), (91, 96), (123, 126)])
  else if name = "space" then some asciiSpace
  else if name = "upper" then some (.between 65 90)
  else if name = "word" then some asciiWord
  else if name = "xdigit" then some (.ofRanges [(48, 57), (65, 70), (97, 102)])
  else none

/-- What an escape or a plain character stands for. -/
inductive Atom where
  | literal (n : Nat)
  | cls (chars : CharSet)
  | condition (l : Look)

/-- The characters that have a meaning of their own somewhere in a pattern. -/
def isMeta (c : Char) : Bool := "\\.+*?()|[]\x7b\x7d^$#&-~".toList.contains c

/-- Hexadecimal digits, exactly `count` of them. -/
def hexDigits : (count : Nat) → (value : Nat) → Reader Nat
  | 0, value => return value
  | count + 1, value => do
    let some c ← peek | failure
    let some d := Text.digitValue? 16 c | failure
    bumpSpace
    hexDigits count (value * 16 + d)

/-- Hexadecimal digits up to a closing brace. -/
def bracedHex : (fuel : Nat) → (read : Text) → Reader Nat
  | 0, _ => failure
  | fuel + 1, read => do
    let some c ← peek | failure
    bumpSpace
    if c = '\x7d' then
      let some n := Text.digits? 16 read.reverse | failure
      return n
    else bracedHex fuel (c :: read)

/-- Whether a number is the code point of a character. -/
def isCharCode (n : Nat) : Bool := n < 0xD800 || (0xDFFF < n && n ≤ 0x10FFFF)

/-- The code point of an escape `\x`, `\u` or `\U`, after its letter. -/
def hexEscape (kind : Char) : Reader Nat := do
  let n ← if (← peek) == some '\x7b' then do
      bumpSpace
      bracedHex ((← get).rest.length + 1) []
    else do
      let n ← hexDigits (if kind = 'x' then 2 else if kind = 'u' then 4 else 8) 0
      require ((← get).flags.unicode || kind != 'x' || n < 0x80)
      pure n
  require (isCharCode n)
  return n

/-- The text up to a closing brace, which is taken too. -/
def untilBrace : (fuel : Nat) → (read : Text) → Reader Text
  | 0, _ => failure
  | fuel + 1, read => do
    let some c ← peek | failure
    if c = '\x7d' then
      bump
      return read.reverse
    else
      bumpSpace
      untilBrace fuel (c :: read)

/-- The class that follows `\p` or `\P`. -/
def propertyClass : Reader CharSet := do
  let some c ← peek | failure
  if c = '\x7b' then
    bumpSpace
    let name ← untilBrace ((← get).rest.length + 1) []
    let find (sep : Text) (negated : Bool) : Option (Option CharSet) :=
      (Text.splitOnce? sep name).map fun (property, value) =>
        (Text.propertyValue? property value).map fun chars =>
          if negated then chars.compl else chars
    let found := (find ['!', '='] true <|> find [':'] false <|> find ['='] false).getD
      (Text.property? name)
    match found with
    | some chars => return chars
    | none => failure
  else
    require (c != '\\')
    bumpSpace
    match Text.property? [c] with
    | some chars => return chars
    | none => failure

/-- The special forms of `\b`, after the `b`; `none` leaves the text as it is. -/
def specialBoundary (ascii : Bool) : Reader (Option Look) := do
  let start ← get
  if start.rest.head? != some '\x7b' then return none
  bumpSpace
  let isNameChar (c : Char) : Bool := c.isAlpha || c == '-'
  match ← peek with
  | none => failure
  | some c =>
    if !isNameChar c then
      set start
      return none
    else
      let rest := (← get).rest
      let name := rest.takeWhile isNameChar
      modify fun c => { c with rest := rest.dropWhile isNameChar }
      require ((← peek) == some '\x7d')
      bump
      let name := String.ofList name
      if name = "start" then return some (.wordStart ascii)
      else if name = "end" then return some (.wordEnd ascii)
      else if name = "start-half" then return some (.wordStartHalf ascii)
      else if name = "end-half" then return some (.wordEndHalf ascii)
      else failure

/-- What an escape stands for, after the backslash. -/
def escape : Reader Atom := do
  let f := (← get).flags
  let some c ← peek | failure
  if c.isDigit then failure
  else if c = 'x' || c = 'u' || c = 'U' then
    bumpSpace
    return .literal (← hexEscape c)
  else if c = 'p' || c = 'P' then
    bumpSpace
    require f.unicode
    let chars ← propertyClass
    let chars := closeCase f chars
    return .cls (if c = 'P' then chars.compl else chars)
  else if c = 'd' || c = 's' || c = 'w' then
    bump
    return .cls (perlClass f.unicode c)
  else if c = 'D' || c = 'S' || c = 'W' then
    bump
    require f.unicode
    return .cls (perlClass f.unicode c.toLower).compl
  else
    bump
    if isMeta c then return .literal c.toNat
    else if c = 'a' then return .literal 7
    else if c = 'f' then return .literal 12
    else if c = 't' then return .literal 9
    else if c = 'n' then return .literal 10
    else if c = 'r' then return .literal 13
    else if c = 'v' then return .literal 11
    else if c = 'A' then return .condition .textStart
    else if c = 'z' then return .condition .textEnd
    else if c = 'b' then
      return .condition ((← specialBoundary !f.unicode).getD (.wordBoundary !f.unicode))
    else if c = 'B' then return .condition (.notWordBoundary !f.unicode)
    else if c = '<' then return .condition (.wordStart !f.unicode)
    else if c = '>' then return .condition (.wordEnd !f.unicode)
    else if c.toNat < 0x80 && !c.isAlphanum then return .literal c.toNat
    else failure

/-- One item of a class: an escape or a character. -/
def classItem : Reader Atom := do
  let some c ← peek | failure
  if c = '\\' then
    bump
    escape
  else
    bump
    return .literal c.toNat

/-- A set of characters with the depth of its tree. -/
structure ClassPiece where
  chars : CharSet := .empty
  depth : Nat := 0

/-- The union of two sets. -/
def ClassPiece.union (a b : ClassPiece) : ClassPiece :=
  ⟨a.chars.union b.chars, max a.depth b.depth⟩

/-- The operations between sets in a class. -/
inductive SetOp where
  | intersection
  | difference
  | symmetricDifference

/-- Whether a character is in the set that an operation makes of two, if it is in the one and in the
other. -/
def SetOp.value : SetOp → Bool → Bool → Bool
  | .intersection, a, b => a && b
  | .difference, a, b => a && !b
  | .symmetricDifference, a, b => a != b

/-- The set that an operation makes of two. -/
def SetOp.apply (op : SetOp) (a b : ClassPiece) : ClassPiece :=
  ⟨.combine op.value a.chars b.chars, max a.depth b.depth + 1⟩

/-- The set operation that comes next. -/
def setOp : Reader (Option SetOp) := do
  if ← accept ['&', '&'] then return some .intersection
  else if ← accept ['-', '-'] then return some .difference
  else if ← accept ['~', '~'] then return some .symmetricDifference
  else return none

/-- The code point of an item that can bound a range. -/
def Atom.code? : Atom → Option Nat
  | .literal n => some n
  | _ => none

/-- The set of one item. -/
def atomSet (f : Flags) : Atom → Reader ClassPiece
  | .literal n => return ⟨closeCase f (.single n), 0⟩
  | .cls chars => return ⟨chars, 0⟩
  | .condition _ => failure

/-- The character after the next one, white space skipped where it does not count. -/
def peekSecond : Reader (Option Char) := do
  let start ← get
  bumpSpace
  let c ← peek
  set start
  return c

/-- A range or a single item of a class. -/
def classRange : Reader ClassPiece := do
  let f := (← get).flags
  let first ← classItem
  space
  let some c ← peek | failure
  let second ← peekSecond
  if c != '-' || second == some ']' || second == some '-' then atomSet f first
  else
    bumpSpace
    require (← peek).isSome
    let last ← classItem
    let (some a, some b) := (first.code?, last.code?) | failure
    require (a ≤ b)
    return ⟨closeCase f (.between a b), 0⟩

/-- A named ASCII class, if one comes next; otherwise nothing is taken. -/
def namedClass : Reader (Option ClassPiece) := do
  let f := (← get).flags
  let start ← get
  if ← accept ['[', ':'] then
    let negated ← accept ['^']
    let rest := (← get).rest
    match Text.splitOnce? [':', ']'] rest with
    | some (name, after) =>
      match if name.contains ':' then none else asciiClass? name with
      | some chars =>
        set { start with rest := after }
        let chars := closeCase f chars
        return some ⟨if negated then chars.compl else chars, 0⟩
      | none =>
        set start
        return none
    | none =>
      set start
      return none
  else return none

/-- The literal hyphens at the start of a class. -/
def leadingHyphens : (fuel : Nat) → Reader Bool
  | 0 => return false
  | fuel + 1 => do
    if (← peek) == some '-' then
      bumpSpace
      let _ ← leadingHyphens fuel
      return true
    else return false

/-- A class after its opening bracket, up to and with the closing one. -/
def bracketed : (fuel : Nat) → Reader ClassPiece
  | 0 => failure
  | fuel + 1 => do
    let f := (← get).flags
    space
    let negated ← if (← peek) == some '^' then do bumpSpace; pure true else pure false
    require (f.unicode || !negated)
    let hyphens ← leadingHyphens (← get).rest.length
    let first : ClassPiece :=
      if hyphens then ⟨.single 45, 0⟩ else {}
    let bracket ← if !hyphens && (← peek) == some ']' then do bumpSpace; pure true else pure false
    let first : ClassPiece := if bracket then ⟨.single 93, 0⟩ else first
    let result ← items f fuel none first
    let depth ← deeper result.depth
    return ⟨if negated then result.chars.compl else result.chars, depth⟩
where
  /-- The items after those of `union`; `pending` is the left operand of the last operation. -/
  items (f : Flags) : (fuel : Nat) → (pending : Option (ClassPiece × SetOp)) →
      (union : ClassPiece) → Reader ClassPiece
    | 0, _, _ => failure
    | fuel + 1, pending, union => do
      space
      let some c ← peek | failure
      let combined : ClassPiece := match pending with
        | none => union
        | some (left, op) => op.apply left union
      if c = '[' then
        match ← namedClass with
        | some piece => items f fuel pending (union.union piece)
        | none =>
          bump
          let piece ← bracketed fuel
          items f fuel pending (union.union piece)
      else if c = ']' then
        bump
        return combined
      else
        match ← setOp with
        | some op => items f fuel (some (combined, op)) {}
        | none =>
          let piece ← classRange
          items f fuel pending (union.union piece)

/-- A decimal number with white space around it; `none` if there are no digits. -/
def decimal : Reader (Option Nat) := do
  modify fun c => { c with rest := c.rest.dropWhile Text.isBlank }
  let rest := (← get).rest
  let digits := rest.takeWhile Char.isDigit
  modify fun c => { c with rest := (rest.dropWhile Char.isDigit).dropWhile Text.isBlank }
  match Text.digits? 10 digits with
  | none => return none
  | some n =>
    require (n < 4294967296)
    return some n

/-- The bounds of a counted loop, after the opening brace and with the closing one. -/
def bounds : Reader (Nat × Option Nat) := do
  space
  let least ← decimal
  let some c ← peek | failure
  if c = ',' then
    bumpSpace
    let some c ← peek | failure
    if c = '\x7d' then
      bump
      let some least := least | failure
      return (least, none)
    else
      let some least := least | failure
      let some most ← decimal | failure
      require ((← peek) == some '\x7d' && least ≤ most)
      bump
      return (least, some most)
  else
    let some n := least | failure
    require (c == '\x7d')
    bump
    return (n, some n)

/-- Whether the loop just read is greedy: a question mark after it turns that round. -/
def greed : Reader Bool := do
  let lazily ← accept ['?']
  return lazily == (← get).flags.swapGreed

/-- The flags of a group after its question mark; `seen` are the letters read, and `on` whether
the flags read now are set. -/
def readFlags : (fuel : Nat) → (seen : Text) → (on : Bool) → (dangling : Bool) → Flags →
    Reader (Flags × Bool)
  | 0, _, _, _, _ => failure
  | fuel + 1, seen, on, dangling, f => do
    let some c ← peek | failure
    if c = ':' || c = ')' then
      require (!dangling)
      return (f, seen.isEmpty)
    else
      require (!seen.contains c)
      bump
      let next (f : Flags) := readFlags fuel (c :: seen) on false f
      if c = '-' then readFlags fuel (c :: seen) false true f
      else if c = 'i' then next { f with ignoreCase := on }
      else if c = 'm' then next { f with multiLine := on }
      else if c = 's' then next { f with dotAll := on }
      else if c = 'U' then next { f with swapGreed := on }
      else if c = 'u' then next { f with unicode := on }
      else if c = 'R' then next { f with carriageReturns := on }
      else if c = 'x' then next { f with verbose := on }
      else failure

/-- Whether a character may stand in the name of a group. -/
def isNameChar (first : Bool) (c : Char) : Bool :=
  c == '_' ||
    (if first then Text.isAlphabetic c
     else c == '.' || c == '[' || c == ']' || Text.isAlphanumeric c)

/-- Takes the number of a new group. -/
def newGroup (name : Option Text) : Reader Nat := do
  let c ← get
  let n := c.groups + 1
  match name with
  | none => set { c with groups := n }
  | some name =>
    require ((c.names.lookup name).isNone)
    set { c with groups := n, names := (name, n) :: c.names }
  return n

/-- The name of a group, up to and with the closing angle bracket. -/
def groupName : Reader Text := do
  let rest := (← get).rest
  match Text.splitOnce? ['>'] rest with
  | none => failure
  | some (name, after) =>
    require (!name.isEmpty && (name.take 1).all (isNameChar true) &&
      (name.drop 1).all (isNameChar false))
    modify fun c => { c with rest := after }
    return name

/-- The pattern of a point. -/
def anyChar (f : Flags) : CharSet :=
  if f.dotAll then CharSet.empty.compl
  else if f.carriageReturns then (CharSet.ofRanges [(10, 10), (13, 13)]).compl
  else (CharSet.single 10).compl

/-- What comes before an item in a sequence: the items read, reversed, where `none` stands for
flags, which no loop can follow. -/
abbrev Items := List (Option Piece)

/-- The sequence of items. -/
def sequence (items : Items) : Reader Piece := do
  match items.reverse with
  | [] => return ⟨.empty, 0⟩
  | [some p] => return p
  | [none] => return ⟨.empty, 0⟩
  | items =>
    let pieces := items.filterMap id
    let depth ← deeper (pieces.foldl (fun d p => max d p.depth) 0)
    return ⟨.seqOf (pieces.map (·.pattern)), depth⟩

/-- The alternation of branches, given last branch first. -/
def alternation (branches : List Piece) : Reader Piece := do
  match branches with
  | [] => return ⟨.empty, 0⟩
  | [p] => return p
  | branches =>
    let depth ← deeper (branches.foldl (fun d p => max d p.depth) 0)
    return ⟨.altOf (branches.reverse.map (·.pattern)), depth⟩

/-- A loop over the last item. -/
def loopLast (least : Nat) (most : Option Nat) (items : Items) : Reader Items := do
  match items with
  | some p :: before =>
    let greedy ← greed
    let depth ← deeper p.depth
    return some ⟨.loopOf least most greedy p.pattern, depth⟩ :: before
  | _ => failure

/-- A pattern up to a closing parenthesis or the end, neither of which is taken. -/
def branches : (fuel : Nat) → (done : List Piece) → (items : Items) → Reader Piece
  | 0, _, _ => failure
  | fuel + 1, done, items => do
    space
    let f := (← get).flags
    match ← peek with
    | none => alternation ((← sequence items) :: done)
    | some c =>
      if c = ')' then alternation ((← sequence items) :: done)
      else if c = '|' then
        bump
        branches fuel ((← sequence items) :: done) []
      else if c = '(' then
        bump
        space
        let look ← do
          let rest := (← get).rest
          pure ([['?', '='], ['?', '!'], ['?', '<', '='], ['?', '<', '!']].any
            (·.isPrefixOf rest))
        require (!look)
        if (← accept ['?', 'P', '<']) || (← accept ['?', '<']) then
          let n ← newGroup (some (← groupName))
          let p ← inner f (branches fuel [] [])
          branches fuel done (some (← grouped n p) :: items)
        else if ← accept ['?'] then
          let (flags, bare) ← readFlags (← get).rest.length [] true false f
          let c ← peek
          bump
          if c == some ')' then
            require (!bare)
            modify fun c => { c with flags }
            branches fuel done (none :: items)
          else
            modify fun c => { c with flags }
            let p ← inner f (branches fuel [] [])
            let depth ← deeper p.depth
            branches fuel done (some ⟨p.pattern, depth⟩ :: items)
        else
          let n ← newGroup none
          let p ← inner f (branches fuel [] [])
          branches fuel done (some (← grouped n p) :: items)
      else if c = '[' then
        bump
        let piece ← bracketed ((← get).rest.length + 1)
        branches fuel done (some ⟨.set piece.chars, piece.depth⟩ :: items)
      else if c = '*' then
        bump
        branches fuel done (← loopLast 0 none items)
      else if c = '+' then
        bump
        branches fuel done (← loopLast 1 none items)
      else if c = '?' then
        bump
        branches fuel done (← loopLast 0 (some 1) items)
      else if c = '\x7b' then
        require (items.head?.bind id).isSome
        bump
        let (least, most) ← bounds
        branches fuel done (← loopLast least most items)
      else
        bump
        let p ← primitive f c
        branches fuel done (some ⟨p, 0⟩ :: items)
where
  /-- The body of a group up to and with its closing parenthesis, after which the flags are as they
  were before it. -/
  inner (f : Flags) (body : Reader Piece) : Reader Piece := do
    let p ← body
    require ((← peek) == some ')')
    bump
    modify fun c => { c with flags := f }
    return p
  /-- A piece as the body of a numbered group. -/
  grouped (n : Nat) (p : Piece) : Reader Piece := do
    let depth ← deeper p.depth
    return ⟨.group n p.pattern, depth⟩
  /-- A character that is no operator, or what follows a backslash. -/
  primitive (f : Flags) (c : Char) : Reader Pattern := do
    if c = '\\' then
      match ← escape with
      | .literal n => return charPattern f n
      | .cls chars => return .set chars
      | .condition l => return .look l
    else if c = '.' then
      require f.unicode
      return .set (anyChar f)
    else if c = '^' then
      return .look (if f.multiLine then .lineStart f.carriageReturns else .textStart)
    else if c = '$' then
      return .look (if f.multiLine then .lineEnd f.carriageReturns else .textEnd)
    else return charPattern f c.toNat

end Parser

/-- The pattern that a text writes, unless its programs take too much room, with the numbers of its
named groups. -/
def parse? (s : Text) : Option (Pattern × List (Text × Nat)) :=
  match (Parser.branches (s.length + 1) [] []).run { rest := s } with
  | some (piece, c) =>
    if c.rest.isEmpty && piece.pattern.fits then some (piece.pattern, c.names)
    else none
  | none => none

end Extraction.Regex
