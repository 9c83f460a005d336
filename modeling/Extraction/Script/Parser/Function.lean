import Extraction.Script.Parser.Basic

/-!
# Reading functions

Parameters and bodies, arrow functions, methods and classes.

## Main definitions

* `Parser.functionRest`: what follows the name of a function
* `Parser.arrow?`: an arrow function
* `Parser.propertyKey`, `Parser.methodRest`: the parts of methods
* `Parser.classRest`: what follows the word `class`
-/

namespace Extraction.Script

namespace Parser

/-- A pattern that may have a value of its own. -/
def element (g : Grammar) (binding : Bool) : Parser Pattern := do
  let p ← g.pattern binding
  if ← tryMark "=" then return .initial p (← g.assignment false)
  else return p

/-- The parameters up to the closing parenthesis, which is read. -/
def parametersRest (g : Grammar) : Parser (List Pattern × Option Pattern) :=
  repeated ([] : List Pattern) fun acc => do
    if ← tryMark ")" then return .inr (acc.reverse, none)
    else if ← tryMark "..." then
      let p ← g.pattern true
      mark ")"
      return .inr (acc.reverse, some p)
    else
      let p ← element g true
      if ← tryMark "," then return .inl (p :: acc)
      else
        mark ")"
        return .inr ((p :: acc).reverse, none)

/-- Statements up to the closing brace, which is not read. -/
def statements (g : Grammar) : Parser (List Stmt) :=
  repeated ([] : List Stmt) fun acc => do
    match (← get).token with
    | .mark "\x7d" => return .inr acc.reverse
    | .finish => return .inr acc.reverse
    | _ => return .inl ((← g.statement) :: acc)

/-- Whether the text begins with the directive that makes code strict. -/
def peekStrict : Parser Bool := do
  let s ← get
  match s.token with
  | .string u =>
    let plain := s.here.length == s.after.length + 12
    if plain && u == nameOf "use strict" then
      match enter? s s.after with
      | some next =>
        match next.token with
        | .mark ";" | .mark "\x7d" | .finish => return true
        | .word _ | .string _ | .number _ => return next.newline
        | _ => return false
      | none => return false
    else return false
  | _ => return false

/-- The surroundings at the start of the body of a function. -/
def bodySurroundings (sort : FunctionSort) (strict : Bool) (s : Surroundings) : Surroundings :=
  { strict := strict
    inFunction := true
    inMethod := match sort with
      | .plain => false
      | .arrow => s.inMethod
      | _ => true
    inDerived := match sort with
      | .derivedConstructor => true
      | .arrow => s.inDerived
      | _ => false
    inLoop := false
    inSwitch := false
    labels := [] }

/-- The body of a function in braces, and whether it is strict. -/
def functionBody (g : Grammar) (sort : FunctionSort) : Parser (Block × Bool) := do
  mark "\x7b"
  let strict := (← get).surroundings.strict || (← peekStrict)
  let block ← within (bodySurroundings sort strict) (gathered false (statements g))
  mark "\x7d"
  return (block, strict)

/-- The function of its parts. Parameters may not be declared again for the body, and not be named
twice where functions are short or strict. -/
def assemble (name : Name) (sort : FunctionSort) (params : List Pattern × Option Pattern)
    (body : Block) (strict : Bool) (value : Option Expr) : Parser Function := do
  let names := itemNames params.1 ++ restNames params.2
  let simple := params.2.isNone && params.1.all fun p => match p with
    | .target _ => true
    | _ => false
  require (!(body.lexical.any fun (n, _) => names.contains n))
  require (distinct names || (simple && !strict && sort == .plain))
  modify fun s => { s with captures := true }
  let arrowSpeaks := sort == .arrow && body.vars.contains argumentsName
  if arrowSpeaks && (← get).surroundings.inFunction then declareVars [argumentsName]
  return .mk name sort strict params.1 params.2 body value

/-- What follows the name of a function: parameters and body. -/
def functionRest (g : Grammar) (name : Name) (sort : FunctionSort) : Parser Function := do
  mark "("
  let params ← within (bodySurroundings sort (← get).surroundings.strict) (parametersRest g)
  let (body, strict) ← functionBody g sort
  assemble name sort params body strict none

/-- A function after its word: a name if there is one, parameters and body. -/
def functionExpr (g : Grammar) : Parser Expr := do
  let name ← match ← peekName? with
    | some n =>
      advance
      pure n
    | none => pure #[]
  return .function (← functionRest g name .plain)

/-- An arrow function, if one stands here. -/
def arrow? (g : Grammar) (noIn : Bool) : Parser (Option Expr) := do
  let likely ← match (← get).token with
    | .mark "(" => pure true
    | .word _ => pure (← peekName?).isSome
    | _ => pure false
  if !likely then return none
  let head : Option (List Pattern × Option Pattern) ← attempt do
    let params ← if ← tryMark "(" then parametersRest g
      else do
        let n ← name
        pure ([Pattern.target (.ident n)], none)
    let s ← get
    require (!s.newline)
    mark "=>"
    return params
  match head with
  | none => return none
  | some params =>
    if ← atMark "\x7b" then
      let (body, strict) ← functionBody g .arrow
      return some (.function (← assemble #[] .arrow params body strict none))
    else
      let strict := (← get).surroundings.strict
      let e ← within (bodySurroundings .arrow strict) (g.assignment noIn)
      return some (.function (← assemble #[] .arrow params .empty strict (some e)))

/-- The name of a member: a word, a string, a number, or an expression in brackets. -/
def propertyKey (g : Grammar) : Parser Key := do
  match (← get).token with
  | .word w =>
    advance
    return .fixed (nameOf w)
  | .string u =>
    advance
    return .fixed u
  | .number n =>
    advance
    return .fixed (Utf16.ofText n.toText)
  | .bigint n =>
    advance
    return .fixed (Utf16.ofText (Text.ofInt n))
  | .mark "[" =>
    advance
    let e ← g.assignment false
    mark "]"
    return .computed e
  | _ => absent

/-- The name that a function takes from its key, if that is known. -/
def keyName : Key → Name
  | .fixed n => n
  | .computed _ => #[]

/-- Whether the token in front may begin a key. -/
def atKey : Parser Bool := do
  match (← get).token with
  | .word _ | .string _ | .number _ | .bigint _ | .mark "[" => return true
  | _ => return false

/-- A method, a getter or a setter, if one stands here. A method called `constructor` is of the
given sort. -/
def method? (g : Grammar) (maker : FunctionSort) : Parser (Option Member) := do
  let accessor ← attempt do
    let getter ← atWord "get"
    require (getter || (← atWord "set"))
    advance
    require (← atKey)
    let key ← propertyKey g
    require (← atMark "(")
    return (getter, key)
  match accessor with
  | some (true, key) => return some (.getter key (← functionRest g (keyName key) .method))
  | some (false, key) => return some (.setter key (← functionRest g (keyName key) .method))
  | none =>
    let key ← attempt do
      let key ← propertyKey g
      require (← atMark "(")
      return key
    match key with
    | some key =>
      let sort := match key with
        | .fixed n => if n == nameOf "constructor" then maker else .method
        | .computed _ => .method
      return some (.method key (← functionRest g (keyName key) sort))
    | none => return none

/-- A member of a class, or its constructor, which is of the given sort. -/
def classMember (g : Grammar) (maker : FunctionSort) : Parser (Option Function ⊕ ClassMember) := do
  let onClass ← do
    let found ← attempt do
      word "static"
      require ((← atKey) || (← atMark "\x7b"))
    pure found.isSome
  if onClass && (← atMark "\x7b") then
    let (body, strict) ← functionBody g .method
    return .inr (.initial (← assemble #[] .method ([], none) body strict none))
  match ← method? g (if onClass then .method else maker) with
  | some (.method (.fixed n) f) =>
    if !onClass && n == nameOf "constructor" then return .inl (some f)
    else return .inr (.method onClass (.method (.fixed n) f))
  | some m => return .inr (.method onClass m)
  | none =>
    let key ← propertyKey g
    let value ← if ← tryMark "=" then do
        let e ← within (bodySurroundings .method true) (g.assignment false)
        let f ← assemble (keyName key) .method ([], none) .empty true (some e)
        pure (some f)
      else pure none
    semicolon
    return .inr (.field onClass key value)

/-- A class after its word and its name. -/
def classRest (g : Grammar) (name : Name) : Parser Class := do
  let parent ← if ← tryWord "extends" then do
      let e ← g.head
      pure (some e)
    else pure none
  mark "\x7b"
  let sort : FunctionSort := if parent.isSome then .derivedConstructor else .constructor
  let (maker, members) ← within (fun s => { s with strict := true }) <|
    repeated ((none : Option Function), ([] : List ClassMember)) fun (maker, members) => do
      if ← tryMark "\x7d" then return .inr (maker, members.reverse)
      else if ← tryMark ";" then return .inl (maker, members)
      else
        match ← classMember g sort with
        | .inl f =>
          require maker.isNone
          return .inl (f, members)
        | .inr m => return .inl (maker, m :: members)
  return .mk name parent (maker.map fun f => f.rename name) members

end Parser

end Extraction.Script
