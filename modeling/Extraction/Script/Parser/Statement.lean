import Extraction.Script.Parser.Expression

/-!
# Reading statements and scripts

## Main definitions

* `Parser.statementAt`: a statement
* `grammar`: the readers tied together, up to a depth
* `Program.parse?`: the program that a text is
-/

namespace Extraction.Script

namespace Parser

/-- An expression in parentheses. -/
def parenthesized (g : Grammar) : Parser Expr := do
  mark "("
  let e ← expression g false
  mark ")"
  return e

/-- Statements in braces. -/
def block (g : Grammar) : Parser Block := do
  mark "\x7b"
  let b ← gathered true (statements g)
  mark "\x7d"
  return b

/-- The words that declare, and what they mean: whether for the block, and whether constant. -/
def declarator? (w : String) : Option (Bool × Bool) :=
  if w == "var" then some (false, false)
  else if w == "let" then some (true, false)
  else if w == "const" then some (true, true)
  else none

/-- A word that declares, if one stands here and something to declare follows it. -/
def peekDeclarator? : Parser (Option (Bool × Bool)) := do
  let s ← get
  match s.token with
  | .word w =>
    match declarator? w with
    | none => return none
    | some kind =>
      if w != "let" then return some kind
      else
        -- the word may be a name
        match enter? s s.after with
        | some next =>
          match next.token with
          | .word v =>
            return if v == "in" || v == "instanceof" || v == "of" then none else some kind
          | .mark "[" | .mark "\x7b" => return some kind
          | _ => return none
        | none => return none
  | _ => return none

/-- Declares the names of a pattern. -/
def declare (lexical constant : Bool) (p : Pattern) : Parser Unit :=
  if lexical then declareLexical constant p.names else declareVars p.names

/-- One declaration: where the value goes, and the value. A constant has to have one. -/
def declaration (g : Grammar) (noIn lexical constant : Bool) (p : Pattern) : Parser (List Stmt) := do
  declare lexical constant p
  let value ← if ← tryMark "=" then do
      let e ← g.assignment noIn
      pure (some e)
    else pure none
  let plain := match p with
    | .target _ => true
    | _ => false
  require (value.isSome || (plain && !constant))
  match lexical, value with
  | true, value => return [.declare p value]
  | false, some e => return [.var p e]
  | false, none => return []

/-- Declarations with commas between them, the first one begun. -/
def declarations (g : Grammar) (noIn lexical constant : Bool) (first : Pattern) :
    Parser (List Stmt) := do
  let head ← declaration g noIn lexical constant first
  repeated head fun acc => do
    if ← tryMark "," then
      let p ← g.pattern true
      let more ← declaration g noIn lexical constant p
      return .inl (acc ++ more)
    else return .inr acc

/-- Runs a reader with the body of a loop in mind. -/
def loopBody (g : Grammar) : Parser Stmt :=
  within (fun s => { s with inLoop := true, inSwitch := true }) g.statement

/-- Whether a label stands around; before a loop, if asked for. -/
def knowsLabel (loop : Bool) (n : Name) : Parser Bool := do
  return (← get).surroundings.labels.any fun (m, isLoop) => m == n && (isLoop || !loop)

/-- The label of a jump, if one is given. -/
def jumpLabel : Parser (Option Name) := do
  if (← get).newline then return none
  match ← peekName? with
  | some n =>
    advance
    return some n
  | none => return none

/-- A loop that begins with `for`, after that word. -/
def forStatement (g : Grammar) : Parser Stmt := do
  mark "("
  let outer := (← get).declared
  let capturesBefore := (← get).captures
  modify fun s => { s with captures := false }
  let finish (s : Stmt) : Parser Stmt := do
    modify fun s => { s with captures := s.captures || capturesBefore }
    return s
  -- the rest of a loop that counts, its start read
  let counting (start : LoopStart) : Parser Stmt := do
    mark ";"
    let test ← if ← atMark ";" then pure none else do
      let e ← expression g false
      pure (some e)
    mark ";"
    let update ← if ← atMark ")" then pure none else do
      let e ← expression g false
      pure (some e)
    mark ")"
    let body ← loopBody g
    let captures := (← get).captures
    finish (.forLoop start test update body captures)
  -- the rest of a loop over items, its target read
  let turning (head : LoopHead) : Parser Stmt := do
    if ← tryWord "of" then
      let e ← g.assignment false
      mark ")"
      let body ← loopBody g
      finish (.forOf head e body)
    else
      word "in"
      let e ← expression g false
      mark ")"
      let body ← loopBody g
      finish (.forIn head e body)
  match ← peekDeclarator? with
  | some (lexical, constant) =>
    advance
    let p ← g.pattern true
    let items := (← atWord "of") || (← atWord "in")
    if items then
      if lexical then
        require (distinct p.names)
        turning (.declare constant p.names p)
      else
        declareVars p.names
        turning (.var p)
    else
      let decls ← declarations g true lexical constant p
      if lexical then
        -- the names belong to the loop, not to the block around
        let found := (← get).declared
        let names := (found.lexical.drop outer.lexical.length).map Prod.fst
        require (distinct names)
        modify fun s => { s with declared := { s.declared with lexical := outer.lexical } }
        counting (.declare constant names (.several decls))
      else counting (.plain (.several decls))
  | none =>
    if ← atMark ";" then counting (.plain .empty)
    else
      let target ← attempt do
        let p ← g.pattern false
        require ((← atWord "of") || (← atWord "in"))
        return p
      match target with
      | some p => turning (.assign p)
      | none =>
        let e ← expression g true
        counting (.plain (.expr e))

/-- The cases of a switch up to the closing brace, which is not read. -/
def switchCases (g : Grammar) : Parser (List Stmt) :=
  repeated (([] : List Stmt), false) fun (acc, defaulted) => do
    match (← get).token with
    | .mark "\x7d" => return .inr acc.reverse
    | .word "case" =>
      advance
      let e ← expression g false
      mark ":"
      return .inl (.caseLabel (some e) :: acc, defaulted)
    | .word "default" =>
      advance
      require (!defaulted)
      mark ":"
      return .inl (.caseLabel none :: acc, true)
    | _ =>
      require (!acc.isEmpty)
      return .inl ((← g.statement) :: acc, defaulted)

/-- The attempt of `try`, after that word. -/
def tryStatement (g : Grammar) : Parser Stmt := do
  let body ← block g
  let (param, handler) ← if ← tryWord "catch" then do
      let param ← if ← tryMark "(" then do
          let p ← g.pattern true
          mark ")"
          pure (some p)
        else pure none
      let b ← block g
      let names := restNames param
      require (distinct names && !(b.lexical.any fun (n, _) => names.contains n))
      pure (param, some b)
    else pure (none, none)
  let final ← if ← tryWord "finally" then do
      let b ← block g
      pure (some b)
    else pure none
  require (handler.isSome || final.isSome)
  return .tryCatch body param handler final

/-- A statement that begins with a word which is no name. -/
def wordStatement? (g : Grammar) (w : String) : Option (Parser Stmt) :=
  match w with
  | "if" => some do
    advance
    let test ← parenthesized g
    let yes ← g.statement
    if ← tryWord "else" then return .ifElse test yes (← g.statement)
    else return .ifElse test yes .empty
  | "for" => some do
    advance
    forStatement g
  | "while" => some do
    advance
    let test ← parenthesized g
    return .whileLoop test (← loopBody g)
  | "do" => some do
    advance
    let body ← loopBody g
    word "while"
    let test ← parenthesized g
    let _ ← tryMark ";"
    return .doWhile body test
  | "continue" => some do
    advance
    let label ← jumpLabel
    match label with
    | some n => require (← knowsLabel true n)
    | none => pure ()
    require (← get).surroundings.inLoop
    semicolon
    return .continueTo label
  | "break" => some do
    advance
    let label ← jumpLabel
    match label with
    | some n => require (← knowsLabel false n)
    | none => require (← get).surroundings.inSwitch
    semicolon
    return .breakTo label
  | "return" => some do
    advance
    let s ← get
    require s.surroundings.inFunction
    let bare := s.newline || (match s.token with
      | .mark ";" | .mark "\x7d" | .finish => true
      | _ => false)
    let e ← if bare then pure none else do
      let e ← expression g false
      pure (some e)
    semicolon
    return .returnWith e
  | "throw" => some do
    advance
    require (!(← get).newline)
    let e ← expression g false
    semicolon
    return .throw e
  | "try" => some do
    advance
    tryStatement g
  | "switch" => some do
    advance
    let e ← parenthesized g
    mark "\x7b"
    let b ← within (fun s => { s with inSwitch := true }) (gathered true (switchCases g))
    mark "\x7d"
    return .switch e b
  | "debugger" => some do
    advance
    semicolon
    return .empty
  | "class" => some do
    advance
    let n ← name
    declareLexical false [n]
    return .classDecl (← classRest g n)
  | _ => none

/-- A function declaration, after its word. At the top of a function or of the script it is there
from the start; in a block, from the start of the block. -/
def functionDeclaration (g : Grammar) : Parser Stmt := do
  advance
  let n ← name
  let f ← functionRest g n .plain
  modify fun s => { s with
    declared := { s.declared with functions := s.declared.functions ++ [f] } }
  return .functionPlace n

/-- A statement that is no declaration of a function. -/
def plainStatement (g : Grammar) : Parser Stmt := do
  match ← peekDeclarator? with
  | some (lexical, constant) =>
    advance
    let p ← g.pattern true
    let decls ← declarations g false lexical constant p
    semicolon
    return .several decls
  | none =>
    let label ← attempt do
      let n ← name
      mark ":"
      return n
    match label with
    | some n =>
      require (!(← knowsLabel false n))
      let loop ← match (← get).token with
        | .word w => pure (["for", "while", "do"].contains w)
        | _ => pure false
      let body ← within (fun s => { s with labels := (n, loop) :: s.labels }) g.statement
      return .labelled n body
    | none =>
      let e ← expression g false
      semicolon
      return .expr e

/-- A statement. -/
def statementAt (g : Grammar) : Parser Stmt := do
  match (← get).token with
  | .mark "\x7b" => return .block (← block g)
  | .mark ";" =>
    advance
    return .empty
  | .word w =>
    if w == "function" then functionDeclaration g
    else
      match wordStatement? g w with
      | some p => p
      | none => plainStatement g
  | _ => plainStatement g

end Parser

/-- The readers tied together; parts may nest so many levels deep. -/
def grammar : (depth : Nat) → Grammar
  | 0 =>
    { assignment := fun _ => Parser.absent
      unary := Parser.absent
      power := Parser.absent
      head := Parser.absent
      pattern := fun _ => Parser.absent
      statement := Parser.absent }
  | depth + 1 =>
    { assignment := fun noIn s => Parser.assignmentExpr (grammar depth) noIn s
      unary := fun s => Parser.unaryExpr (grammar depth) s
      power := fun s => Parser.powerExpr (grammar depth) s
      head := fun s => Parser.headExpr (grammar depth) s
      pattern := fun binding s => Parser.patternAt (grammar depth) binding s
      statement := fun s => Parser.statementAt (grammar depth) s }

/-- The program that a text is. Every level of nesting takes at least one token. -/
def Program.parse? (text : Text) : Option Program := do
  let length := text.length
  let start : Reading :=
    { token := .finish
      newline := false
      here := text
      after := text
      surroundings := ⟨false, false, false, false, false, false, []⟩
      declared := ⟨[], [], [], []⟩
      captures := false
      budget := length + 2 }
  let s ← Parser.enter? start text
  let (strict, s) ← Parser.peekStrict.run s
  let g := grammar (2 * length + 4)
  let body : Parser Block := do
    let b ← Parser.within (fun k => { k with strict := strict })
      (Parser.gathered false (Parser.statements g))
    match (← get).token with
    | .finish => return b
    | _ => Parser.absent
  let (block, _) ← body.run s
  return ⟨strict, block⟩

end Extraction.Script
