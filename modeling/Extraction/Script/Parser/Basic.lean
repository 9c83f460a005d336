import Extraction.Script.Regexp.Parser
import Extraction.Script.Token

/-!
# Reading programs: the state of the reader

A reader holds one token and the text behind it. While it goes through a block it gathers what the
block declares, and it keeps in mind where it is: in a function, in a loop, under which labels.

## Main definitions

* `Reading`: the state
* `Parser`: readers of parts of a program
* `Grammar`: the readers that are defined through one another
-/

namespace Extraction.Script

/-- Where a reader is. -/
structure Surroundings where
  strict : Bool
  inFunction : Bool
  /-- Whether `super` and `new.target` have a meaning. -/
  inMethod : Bool
  inDerived : Bool
  inLoop : Bool
  inSwitch : Bool
  /-- The labels around, each with whether it stands before a loop. -/
  labels : List (Name × Bool)

/-- What has been declared so far in the block that is being read. -/
structure Declared where
  lexical : List (Name × Bool)
  functions : List Function
  vars : List Name
  /-- Functions in inner blocks, which are variables of the function around as well. -/
  outward : List Name

/-- The state of a reader. -/
structure Reading where
  token : Token
  /-- Whether a line ends before the token. -/
  newline : Bool
  /-- The text from the token on. -/
  here : Text
  /-- The text after the token. -/
  after : Text
  surroundings : Surroundings
  declared : Declared
  /-- Whether a function has been read, which may hold on to the scopes around it. -/
  captures : Bool
  /-- More than the number of tokens in the text. -/
  budget : Nat

/-- A reader of a part of a program. It fails where the text has no such part. -/
abbrev Parser := StateT Reading Option

/-- The readers that are defined through one another. -/
structure Grammar where
  /-- An expression without commas at its top; `in` is no operator there if `noIn`. -/
  assignment : (noIn : Bool) → Parser Expr
  /-- An expression with at most operators in front. -/
  unary : Parser Expr
  /-- Such an expression, or one raised to a power. -/
  power : Parser Expr
  /-- The operand of `new`, or what a chain begins with. -/
  head : Parser Expr
  /-- Where values go: names, or any targets of assignments if not `binding`. -/
  pattern : (binding : Bool) → Parser Pattern
  statement : Parser Stmt

namespace Parser

/-- A part that is not there. -/
def absent {α : Type} : Parser α := fun _ => none

/-- Fails unless a condition holds. -/
def require (b : Bool) : Parser Unit := if b then pure () else absent

/-- The token in front. -/
def token : Parser Token := do return (← get).token

/-- The state that has its next token in front of a text. -/
def enter? (s : Reading) (text : Text) : Option Reading := do
  let (newline, here) ← Token.skipSpace (text.length + 1) false text
  let (token, after) ← Token.next? here
  return { s with token, newline, here, after }

/-- Goes on to the token after a text position. -/
def resume (text : Text) : Parser Unit := do
  match enter? (← get) text with
  | some s => set s
  | none => absent

/-- Goes on to the next token. -/
def advance : Parser Unit := do resume (← get).after

/-- Whether the token in front is a mark. -/
def atMark (m : String) : Parser Bool := do
  match (← get).token with
  | .mark s => return s == m
  | _ => return false

/-- Whether the token in front is a word. -/
def atWord (w : String) : Parser Bool := do
  match (← get).token with
  | .word s => return s == w
  | _ => return false

/-- Goes past a mark if it is in front. -/
def tryMark (m : String) : Parser Bool := do
  if ← atMark m then
    advance
    return true
  else return false

/-- Goes past a word if it is in front. -/
def tryWord (w : String) : Parser Bool := do
  if ← atWord w then
    advance
    return true
  else return false

/-- Goes past a mark that has to be there. -/
def mark (m : String) : Parser Unit := do require (← tryMark m)

/-- Goes past a word that has to be there. -/
def word (w : String) : Parser Unit := do require (← tryWord w)

/-- What a reader would find, without going on. -/
def peek {α : Type} (p : Parser α) : Parser α := fun s => (p s).map fun (a, _) => (a, s)

/-- What a reader finds; where it fails, nothing has been read. -/
def attempt {α : Type} (p : Parser α) : Parser (Option α) := fun s =>
  match p s with
  | some (a, s) => some (some a, s)
  | none => some (none, s)

/-- Repeats a step until it gives a result. -/
def cycle {σ α : Type} (step : σ → Parser (σ ⊕ α)) : (fuel : Nat) → σ → Parser α
  | 0, _ => absent
  | fuel + 1, s => do
    match ← step s with
    | .inl s => cycle step fuel s
    | .inr a => return a

/-- Repeats a step that reads something until it gives a result. -/
def repeated {σ α : Type} (s : σ) (step : σ → Parser (σ ⊕ α)) : Parser α := do
  cycle step (← get).budget s

/-- The end of a statement: a semicolon, or a place where one may be left out. -/
def semicolon : Parser Unit := do
  if ← tryMark ";" then return
  let s ← get
  let free := s.newline || (match s.token with
    | .mark "\x7d" => true
    | .finish => true
    | _ => false)
  require free

/-- Words that are no names. -/
def reserved : List String :=
  ["break", "case", "catch", "class", "const", "continue", "debugger", "default", "delete", "do",
    "else", "enum", "export", "extends", "false", "finally", "for", "function", "if", "import",
    "in", "instanceof", "new", "null", "return", "super", "switch", "this", "throw", "true", "try",
    "typeof", "var", "void", "while", "with"]

/-- Words that are no names in strict code. -/
def strictReserved : List String :=
  ["implements", "interface", "let", "package", "private", "protected", "public", "static", "yield"]

/-- The name of a word. -/
def nameOf (w : String) : Name := Utf16.ofWord w

/-- The name under which a function finds its arguments. -/
def argumentsName : Name := nameOf "arguments"

/-- The name in front, if it is one, without going on. -/
def peekName? : Parser (Option Name) := do
  let s ← get
  match s.token with
  | .word w =>
    if reserved.contains w || (s.surroundings.strict && strictReserved.contains w) then return none
    else return some (nameOf w)
  | _ => return none

/-- A name. -/
def name : Parser Name := do
  match ← peekName? with
  | some n =>
    advance
    return n
  | none => absent

/-- Any word, as after a point. -/
def anyWord : Parser Name := do
  match (← get).token with
  | .word w =>
    advance
    return nameOf w
  | _ => absent

/-- Runs a reader in other surroundings. -/
def within {α : Type} (change : Surroundings → Surroundings) (p : Parser α) : Parser α := do
  let old := (← get).surroundings
  modify fun s => { s with surroundings := change s.surroundings }
  let a ← p
  modify fun s => { s with surroundings := old }
  return a

/-- Declares names for the block. -/
def declareLexical (constant : Bool) (names : List Name) : Parser Unit :=
  modify fun s => { s with
    declared := { s.declared with
      lexical := s.declared.lexical ++ names.map fun n => (n, constant) } }

/-- Declares variables of the function around. -/
def declareVars (names : List Name) : Parser Unit :=
  modify fun s => { s with
    declared := { s.declared with vars := s.declared.vars ++ names } }

/-- Whether no name is in a list twice. -/
def distinct (names : List Name) : Bool := names.eraseDups.length == names.length

/-- The statements without the places of function declarations, which have no effect there. -/
def withoutPlaces (body : List Stmt) : List Stmt :=
  body.map fun s => match s with
    | .functionPlace .. => .empty
    | s => s

/-- Reads statements as a block of their own, which knows what it declares. The functions of a block
inside a function are also variables of that function, unless a name of the same block forbids. -/
def gathered (inner : Bool) (p : Parser (List Stmt)) : Parser Block := do
  let outer := (← get).declared
  modify fun s => { s with declared := ⟨[], [], [], []⟩ }
  let body ← p
  let found := (← get).declared
  let strict := (← get).surroundings.strict
  let lexicalNames := found.lexical.map Prod.fst
  let functionNames := found.functions.map Function.name
  require (distinct lexicalNames)
  require (!(lexicalNames.any fun n => functionNames.contains n || found.vars.contains n))
  if inner then
    require (!strict || distinct functionNames)
    require (!(functionNames.any fun n => found.vars.contains n))
    let outward := if strict then [] else
      (functionNames ++ found.outward).filter fun n => !lexicalNames.contains n
    modify fun s => { s with
      declared := { outer with vars := outer.vars ++ found.vars, outward := outer.outward ++ outward } }
    return .mk found.lexical found.functions found.vars (if strict then withoutPlaces body else body)
  else
    let outward := found.outward.filter fun n => !lexicalNames.contains n
    modify fun s => { s with declared := outer }
    return .mk found.lexical found.functions (found.vars ++ outward).eraseDups
      (withoutPlaces body)

end Parser

end Extraction.Script
