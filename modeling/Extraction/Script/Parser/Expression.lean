import Extraction.Script.Parser.Function

/-!
# Reading expressions

Operators bind in twelve levels, the loosest first; an assignment is looser than all of them. What
is assigned to has to be a name, a member of something, or a pattern of such targets.

## Main definitions

* `Parser.primary`, `Parser.chainFrom`: operands
* `Parser.unaryExpr`, `Parser.powerExpr`, `Parser.levels`: operators
* `Parser.assignmentExpr`, `Parser.expression`: whole expressions
* `Parser.patternAt`: patterns
-/

namespace Extraction.Script

namespace Parser

/-- An expression, commas included. -/
def expression (g : Grammar) (noIn : Bool) : Parser Expr := do
  let first ← g.assignment noIn
  repeated first fun e => do
    if ← tryMark "," then return .inl (.sequence e (← g.assignment noIn))
    else return .inr e

/-- Items up to a closing mark, which is read. -/
def items (g : Grammar) (closing : String) (holes : Bool) : Parser (List Item) :=
  repeated ([] : List Item) fun acc => do
    if ← tryMark closing then return .inr acc.reverse
    else if holes && (← tryMark ",") then return .inl (.hole :: acc)
    else
      let item ← if ← tryMark "..." then do
          let e ← g.assignment false
          pure (Item.spread e)
        else do
          let e ← g.assignment false
          pure (Item.one e)
      if ← tryMark "," then return .inl (item :: acc)
      else
        mark closing
        return .inr (item :: acc).reverse

/-- A member of an object. -/
def member (g : Grammar) : Parser Member := do
  if ← tryMark "..." then return .spread (← g.assignment false)
  match ← method? g .method with
  | some m => return m
  | none =>
    let short ← peekName?
    let quoted := match (← get).token with
      | .word _ | .string _ => true
      | _ => false
    let key ← propertyKey g
    if ← tryMark ":" then
      let e ← g.assignment false
      match key with
      | .fixed n =>
        if quoted && n == nameOf "__proto__" then return .proto e else return .value key e
      | key => return .value key e
    else
      match short with
      | some n => return .value (.fixed n) (.ident n)
      | none => absent

/-- The members of an object up to the closing brace, which is read. -/
def members (g : Grammar) : Parser (List Member) :=
  repeated ([] : List Member) fun acc => do
    if ← tryMark "\x7d" then return .inr acc.reverse
    else
      let m ← member g
      if ← tryMark "," then return .inl (m :: acc)
      else
        mark "\x7d"
        return .inr (m :: acc).reverse

/-- The stretch of a text with values that goes on at a text position. -/
def templatePart (text : Text) : Parser (TemplatePart × Text) := do
  match Token.templatePart? (text.length + 1) (some #[]) #[] text with
  | some r => return r
  | none => absent

/-- The parts of a text with values and the values, read from after the opening mark. -/
def templateParts (g : Grammar) : Parser (List TemplatePart × List Expr) := do
  let (first, text) ← templatePart (← get).after
  resume text
  if first.last then return ([first], [])
  repeated ([first], ([] : List Expr)) fun (parts, values) => do
    let e ← expression g false
    require (← atMark "\x7d")
    let (part, text) ← templatePart (← get).after
    resume text
    let parts := part :: parts
    let values := e :: values
    if part.last then return .inr (parts.reverse, values.reverse)
    else return .inl (parts, values)

/-- A text with values. -/
def template (g : Grammar) : Parser Expr := do
  let (parts, values) ← templateParts g
  match parts.mapM TemplatePart.cooked with
  | some texts => return .template texts values
  | none => absent

/-- A regular expression, read from the slash in front. -/
def regexp : Parser Expr := do
  match Token.regexp? false [] ((← get).here.drop 1) with
  | some (source, flags, text) =>
    require (Regexp.parse? source flags).isSome
    resume text
    return .regexp source flags
  | none => absent

/-- An operand that is no chain. -/
def primary (g : Grammar) : Parser Expr := do
  match (← get).token with
  | .number n =>
    advance
    return .number n
  | .bigint n =>
    advance
    return .bigint n
  | .string u =>
    advance
    return .string u
  | .mark m =>
    match m with
    | "(" =>
      advance
      let e ← expression g false
      mark ")"
      return e
    | "[" =>
      advance
      return .array (← items g "]" true)
    | "\x7b" =>
      advance
      return .object (← members g)
    | "\x60" => template g
    | "/" | "/=" => regexp
    | _ => absent
  | .word w =>
    match w with
    | "this" =>
      advance
      return .this
    | "null" =>
      advance
      return .null
    | "true" =>
      advance
      return .bool true
    | "false" =>
      advance
      return .bool false
    | "function" =>
      advance
      functionExpr g
    | "class" =>
      advance
      let n ← match ← peekName? with
        | some n =>
          advance
          pure n
        | none => pure #[]
      return .classExpr (← classRest g n)
    | "super" =>
      advance
      let s := (← get).surroundings
      if ← tryMark "." then
        require s.inMethod
        return .superMember (.fixed (← anyWord))
      else if ← tryMark "[" then
        require s.inMethod
        let e ← expression g false
        mark "]"
        return .superMember (.computed e)
      else
        require s.inDerived
        mark "("
        return .superCall (← items g ")" false)
    | "new" =>
      advance
      if ← tryMark "." then
        word "target"
        require (← get).surroundings.inFunction
        return .newTarget
      else
        let callee ← g.head
        if ← tryMark "(" then return .new callee (← items g ")" false)
        else return .new callee []
    | _ =>
      let n ← name
      -- a function that speaks of its arguments has a variable for them
      if n == argumentsName && (← get).surroundings.inFunction then declareVars [n]
      return .ident n
  | .finish => absent

/-- What may follow an operand: members, calls unless `bare`, texts, optional parts. -/
def chainFrom (g : Grammar) (bare : Bool) (start : Expr) : Parser Expr := do
  let (e, opt) ← repeated (start, false) fun (e, opt) => do
    match (← get).token with
    | .mark "." =>
      advance
      return .inl (.member e (← anyWord), opt)
    | .mark "[" =>
      advance
      let key ← expression g false
      mark "]"
      return .inl (.index e key, opt)
    | .mark "(" =>
      if bare then return .inr (e, opt)
      else
        advance
        return .inl (.call e (← items g ")" false), opt)
    | .mark "?." =>
      if bare then absent
      else
        advance
        if ← tryMark "(" then return .inl (.call (.optional e) (← items g ")" false), true)
        else if ← tryMark "[" then
          let key ← expression g false
          mark "]"
          return .inl (.index (.optional e) key, true)
        else return .inl (.member (.optional e) (← anyWord), true)
    | .mark "\x60" =>
      require (!opt)
      let (parts, values) ← templateParts g
      return .inl (.tagged e (parts.map TemplatePart.cooked) (parts.map TemplatePart.raw) values, opt)
    | _ => return .inr (e, opt)
  return if opt then .chain e else e

/-- An operand with its members, but without calls. -/
def headExpr (g : Grammar) : Parser Expr := do chainFrom g true (← primary g)

/-- Whether an expression can be assigned to. -/
def isTarget (strict : Bool) : Expr → Bool
  | .ident n => !(strict && (n == nameOf "eval" || n == nameOf "arguments"))
  | .member .. => true
  | .index .. => true
  | .superMember _ => true
  | _ => false

/-- An operand with a count behind it perhaps. -/
def postfixExpr (g : Grammar) : Parser Expr := do
  let e ← chainFrom g false (← primary g)
  let s ← get
  match s.token with
  | .mark "++" =>
    if s.newline then return e
    require (isTarget s.surroundings.strict e)
    advance
    return .update true false e
  | .mark "--" =>
    if s.newline then return e
    require (isTarget s.surroundings.strict e)
    advance
    return .update false false e
  | _ => return e

/-- The operator in front of an operand. -/
def prefixOp? (t : Token) : Option UnaryOp :=
  match t with
  | .mark "-" => some .minus
  | .mark "+" => some .plus
  | .mark "!" => some .not
  | .mark "~" => some .bitNot
  | .word "typeof" => some .typeOf
  | .word "void" => some .void
  | .word "delete" => some .delete
  | _ => none

/-- An operand with operators in front. -/
def unaryExpr (g : Grammar) : Parser Expr := do
  match prefixOp? (← get).token with
  | some op =>
    advance
    let e ← g.unary
    match op, e with
    | .delete, .ident _ => require (!(← get).surroundings.strict)
    | _, _ => pure ()
    return .unary op e
  | none =>
    let up ← atMark "++"
    if up || (← atMark "--") then
      advance
      let e ← g.unary
      require (isTarget (← get).surroundings.strict e)
      return .update up true e
    else postfixExpr g

/-- An operand raised to a power perhaps, which one with an operator in front cannot be. -/
def powerExpr (g : Grammar) : Parser Expr := do
  let signed := (prefixOp? (← get).token).isSome
  let e ← unaryExpr g
  if ← tryMark "**" then
    require (!signed)
    return .binary .pow e (← g.power)
  else return e

/-- An operator between operands. -/
inductive Infix where
  | binary (op : BinaryOp)
  | logical (op : LogicalOp)

/-- The levels of operators, the loosest first. -/
def levels : List (List (String × Infix)) :=
  [[("??", .logical .coalesce)],
   [("||", .logical .or)],
   [("&&", .logical .and)],
   [("|", .binary .bitOr)],
   [("^", .binary .bitXor)],
   [("&", .binary .bitAnd)],
   [("==", .binary .looseEq), ("!=", .binary .looseNe), ("===", .binary .strictEq),
    ("!==", .binary .strictNe)],
   [("<", .binary .less), ("<=", .binary .lessEq), (">", .binary .greater),
    (">=", .binary .greaterEq), ("instanceof", .binary .instanceOf), ("in", .binary .isIn)],
   [("<<", .binary .shiftLeft), (">>", .binary .shiftRight), (">>>", .binary .shiftRightZero)],
   [("+", .binary .add), ("-", .binary .sub)],
   [("*", .binary .mul), ("/", .binary .div), ("%", .binary .rem)]]

/-- The operator of a level that stands in front. -/
def infixOp? (level : List (String × Infix)) (noIn : Bool) (t : Token) : Option Infix :=
  match t with
  | .mark m => level.lookup m
  | .word w => if noIn && w == "in" then none else level.lookup w
  | _ => none

/-- Operands joined by the operators of some levels, left to right. -/
def operators (g : Grammar) (noIn : Bool) : List (List (String × Infix)) → Parser Expr
  | [] => powerExpr g
  | level :: tighter => do
    let first ← operators g noIn tighter
    repeated first fun e => do
      match infixOp? level noIn (← get).token with
      | some (.binary op) =>
        advance
        return .inl (.binary op e (← operators g noIn tighter))
      | some (.logical op) =>
        advance
        return .inl (.logical op e (← operators g noIn tighter))
      | none => return .inr e

/-- A choice between two expressions, or one without a choice. -/
def conditional (g : Grammar) (noIn : Bool) : Parser Expr := do
  let test ← operators g noIn levels
  if ← tryMark "?" then
    let yes ← g.assignment false
    mark ":"
    return .conditional test yes (← g.assignment noIn)
  else return test

/-- The assignment that a mark stands for. -/
def assignOp? (t : Token) : Option AssignOp :=
  match t with
  | .mark "=" => some .plain
  | .mark "+=" => some (.binary .add)
  | .mark "-=" => some (.binary .sub)
  | .mark "*=" => some (.binary .mul)
  | .mark "/=" => some (.binary .div)
  | .mark "%=" => some (.binary .rem)
  | .mark "**=" => some (.binary .pow)
  | .mark "<<=" => some (.binary .shiftLeft)
  | .mark ">>=" => some (.binary .shiftRight)
  | .mark ">>>=" => some (.binary .shiftRightZero)
  | .mark "&=" => some (.binary .bitAnd)
  | .mark "|=" => some (.binary .bitOr)
  | .mark "^=" => some (.binary .bitXor)
  | .mark "&&=" => some (.logical .and)
  | .mark "||=" => some (.logical .or)
  | .mark "??=" => some (.logical .coalesce)
  | _ => none

/-- An expression without commas at its top. -/
def assignmentExpr (g : Grammar) (noIn : Bool) : Parser Expr := do
  match ← arrow? g noIn with
  | some e => return e
  | none =>
    let nested := (← atMark "[") || (← atMark "\x7b")
    let target ← if nested then attempt do
        let p ← g.pattern false
        mark "="
        return p
      else pure none
    match target with
    | some p => return .assignPattern p (← g.assignment noIn)
    | none =>
      let e ← conditional g noIn
      match assignOp? (← get).token with
      | some op =>
        require (isTarget (← get).surroundings.strict e)
        advance
        return .assign op e (← g.assignment noIn)
      | none => return e

/-- The items of a pattern up to the closing bracket, which is read. -/
def patternItems (g : Grammar) (binding : Bool) : Parser (List Pattern × Option Pattern) :=
  repeated ([] : List Pattern) fun acc => do
    if ← tryMark "]" then return .inr (acc.reverse, none)
    else if ← tryMark "," then return .inl (.skip :: acc)
    else if ← tryMark "..." then
      let p ← g.pattern binding
      mark "]"
      return .inr (acc.reverse, some p)
    else
      let p ← element g binding
      if ← tryMark "," then return .inl (p :: acc)
      else
        mark "]"
        return .inr ((p :: acc).reverse, none)

/-- The members of a pattern up to the closing brace, which is read. -/
def patternMembers (g : Grammar) (binding : Bool) :
    Parser (List (Key × Pattern) × Option Pattern) :=
  repeated ([] : List (Key × Pattern)) fun acc => do
    if ← tryMark "\x7d" then return .inr (acc.reverse, none)
    else if ← tryMark "..." then
      let p ← g.pattern binding
      mark "\x7d"
      return .inr (acc.reverse, some p)
    else
      let short ← peekName?
      let key ← propertyKey g
      let p ← if ← tryMark ":" then element g binding
        else
          match short with
          | some n =>
            if ← tryMark "=" then do
              let e ← g.assignment false
              pure (.initial (.target (.ident n)) e)
            else pure (.target (.ident n))
          | none => absent
      if ← tryMark "," then return .inl ((key, p) :: acc)
      else
        mark "\x7d"
        return .inr (((key, p) :: acc).reverse, none)

/-- A place where a value goes. -/
def patternAt (g : Grammar) (binding : Bool) : Parser Pattern := do
  if ← tryMark "[" then
    let (items, rest) ← patternItems g binding
    return .array items rest
  else if ← tryMark "\x7b" then
    let (members, rest) ← patternMembers g binding
    return .object members rest
  else if binding then return .target (.ident (← name))
  else
    let e ← chainFrom g false (← primary g)
    require (isTarget (← get).surroundings.strict e)
    return .target e

end Parser

end Extraction.Script
