import Extraction.Script.Number

/-!
# Programs of scripts

The trees that programs are read into. Names and strings are strings of UTF-16 units. What a block
declares is gathered in the block itself, so that its scope can be laid out before its first
statement runs.

## Main definitions

* `Expr`, `Pattern`, `Stmt`, `Function`, `Class`: the parts of a program
* `Block`: statements with the names they declare
* `Program`: a whole script
-/

namespace Extraction.Script

/-- A name or a string. -/
abbrev Name := Utf16

/-- Operators in front of one operand. -/
inductive UnaryOp where
  | minus
  | plus
  | not
  | bitNot
  | typeOf
  | void
  | delete
  deriving DecidableEq

/-- Operators between two operands that are both evaluated. -/
inductive BinaryOp where
  | add
  | sub
  | mul
  | div
  | rem
  | pow
  | shiftLeft
  | shiftRight
  | shiftRightZero
  | bitAnd
  | bitOr
  | bitXor
  | looseEq
  | looseNe
  | strictEq
  | strictNe
  | less
  | lessEq
  | greater
  | greaterEq
  | instanceOf
  | isIn
  deriving DecidableEq

/-- Operators whose second operand may go unevaluated. -/
inductive LogicalOp where
  | and
  | or
  | coalesce
  deriving DecidableEq

/-- What an assignment does with the old value. -/
inductive AssignOp where
  | plain
  | binary (op : BinaryOp)
  | logical (op : LogicalOp)
  deriving DecidableEq

/-- The sorts of functions. -/
inductive FunctionSort where
  | plain
  | arrow
  | method
  | constructor
  | derivedConstructor
  deriving DecidableEq

mutual

/-- An expression. -/
inductive Expr where
  | null
  | bool (b : Bool)
  | number (n : Number)
  | bigint (n : Int)
  | string (s : Utf16)
  | regexp (source flags : Utf16)
  /-- A text with values in it; there is one text more than there are values. -/
  | template (texts : List Utf16) (values : List Expr)
  /-- A function applied to the parts of a text; a part with a bad escape has no reading. -/
  | tagged (tag : Expr) (cooked : List (Option Utf16)) (raw : List Utf16) (values : List Expr)
  | ident (name : Name)
  | this
  | newTarget
  | array (items : List Item)
  | object (members : List Member)
  | function (f : Function)
  | classExpr (c : Class)
  | member (object : Expr) (name : Name)
  | index (object key : Expr)
  | superMember (key : Key)
  /-- An operation on the value of `object` that is left out, with all that follows in the chain,
  if that value is null or undefined. -/
  | optional (object : Expr)
  /-- The extent of a chain with optional parts. -/
  | chain (e : Expr)
  | call (callee : Expr) (args : List Item)
  | superCall (args : List Item)
  | new (callee : Expr) (args : List Item)
  | unary (op : UnaryOp) (e : Expr)
  /-- A count up or down; before or after the value is taken. -/
  | update (up first : Bool) (target : Expr)
  | binary (op : BinaryOp) (a b : Expr)
  | logical (op : LogicalOp) (a b : Expr)
  | conditional (test yes no : Expr)
  | assign (op : AssignOp) (target value : Expr)
  | assignPattern (target : Pattern) (value : Expr)
  | sequence (first second : Expr)

/-- An item of an array or of a list of arguments. -/
inductive Item where
  | one (e : Expr)
  | spread (e : Expr)
  | hole

/-- The name of a member of an object. -/
inductive Key where
  | fixed (name : Name)
  | computed (e : Expr)

/-- A member of an object in an expression. -/
inductive Member where
  | value (key : Key) (e : Expr)
  | method (key : Key) (f : Function)
  | getter (key : Key) (f : Function)
  | setter (key : Key) (f : Function)
  | proto (e : Expr)
  | spread (e : Expr)

/-- Where a value goes, in parts perhaps. -/
inductive Pattern where
  | target (e : Expr)
  /-- A value of its own where nothing is given. -/
  | initial (p : Pattern) (e : Expr)
  | object (members : List (Key × Pattern)) (rest : Option Pattern)
  | array (items : List Pattern) (rest : Option Pattern)
  /-- An item that goes nowhere. -/
  | skip

/-- A function. -/
inductive Function where
  | mk (name : Name) (sort : FunctionSort) (strict : Bool)
      (params : List Pattern) (rest : Option Pattern)
      -- an arrow function may consist of an expression alone
      (body : Block) (value : Option Expr)

/-- A class: its parent, the function that makes its instances, methods and fields. -/
inductive Class where
  | mk (name : Name) (parent : Option Expr) (maker : Option Function)
      (members : List ClassMember)

/-- A member of a class. -/
inductive ClassMember where
  | method (onClass : Bool) (m : Member)
  | field (onClass : Bool) (key : Key) (value : Option Function)
  | initial (f : Function)

/-- A statement. -/
inductive Stmt where
  | empty
  | expr (e : Expr)
  /-- Variables of the function around are given values. -/
  | var (p : Pattern) (value : Expr)
  /-- Names of the block are given values; without one, undefined. -/
  | declare (p : Pattern) (value : Option Expr)
  /-- Declarations written as one. -/
  | several (decls : List Stmt)
  /-- The place of a function declaration in a block, where the function is also given to the
  variable of the same name around the block. -/
  | functionPlace (name : Name)
  | classDecl (c : Class)
  | block (b : Block)
  | ifElse (test : Expr) (yes no : Stmt)
  | forLoop (start : LoopStart) (test update : Option Expr) (body : Stmt) (captures : Bool)
  | forIn (head : LoopHead) (object : Expr) (body : Stmt)
  | forOf (head : LoopHead) (object : Expr) (body : Stmt)
  | whileLoop (test : Expr) (body : Stmt)
  | doWhile (body : Stmt) (test : Expr)
  | continueTo (label : Option Name)
  | breakTo (label : Option Name)
  | returnWith (e : Option Expr)
  | throw (e : Expr)
  | tryCatch (body : Block) (param : Option Pattern) (handler : Option Block) (final : Option Block)
  | switch (e : Expr) (cases : Block)
  /-- In a switch, where the statements for a value begin, or those for any other. -/
  | caseLabel (e : Option Expr)
  | labelled (label : Name) (body : Stmt)

/-- What comes first in a loop that counts. -/
inductive LoopStart where
  | plain (s : Stmt)
  | declare (constant : Bool) (names : List Name) (s : Stmt)

/-- Where a loop over items puts each item. -/
inductive LoopHead where
  | assign (target : Pattern)
  | var (target : Pattern)
  | declare (constant : Bool) (names : List Name) (target : Pattern)

/-- Statements, the names they declare for themselves, each with whether it is constant, the
functions they declare, and the variables they declare for the function around them. -/
inductive Block where
  | mk (lexical : List (Name × Bool)) (functions : List Function) (vars : List Name)
      (body : List Stmt)

end

/-- Whether a pattern has a value of its own. -/
def Pattern.hasInitial : Pattern → Bool
  | .initial .. => true
  | _ => false

namespace Function

/-- The name. -/
def name : Function → Name
  | mk name .. => name

/-- The sort. -/
def sort : Function → FunctionSort
  | mk _ sort .. => sort

/-- Whether the function is strict. -/
def strict : Function → Bool
  | mk _ _ strict .. => strict

/-- The parameters. -/
def params : Function → List Pattern
  | mk _ _ _ params .. => params

/-- Where the arguments beyond the parameters go. -/
def rest : Function → Option Pattern
  | mk _ _ _ _ rest .. => rest

/-- The body. -/
def body : Function → Block
  | mk _ _ _ _ _ body .. => body

/-- The expression that an arrow function consists of. -/
def value : Function → Option Expr
  | mk _ _ _ _ _ _ value => value

/-- The function under a name. -/
def rename (f : Function) (name : Name) : Function :=
  match f with
  | mk _ sort strict params rest body value => mk name sort strict params rest body value

/-- How many parameters come before the first that has a value of its own. -/
def arity (f : Function) : Nat := (f.params.takeWhile fun p => !p.hasInitial).length

end Function

namespace Block

/-- The block without anything. -/
def empty : Block := mk [] [] [] []

/-- The names declared for the block itself. -/
def lexical : Block → List (Name × Bool)
  | mk lexical .. => lexical

/-- The functions declared. -/
def functions : Block → List Function
  | mk _ functions .. => functions

/-- The variables declared for the function around the block. -/
def vars : Block → List Name
  | mk _ _ vars _ => vars

/-- The statements. -/
def body : Block → List Stmt
  | mk _ _ _ body => body

end Block

/-- A whole script. -/
structure Program where
  strict : Bool
  block : Block

mutual

/-- The names that a pattern binds. -/
def Pattern.names : Pattern → List Name
  | .target (.ident name) => [name]
  | .target _ => []
  | .initial p _ => p.names
  | .object members rest => memberNames members ++ restNames rest
  | .array items rest => itemNames items ++ restNames rest
  | .skip => []

/-- The names that the members of a pattern bind. -/
def memberNames : List (Key × Pattern) → List Name
  | [] => []
  | (_, p) :: more => p.names ++ memberNames more

/-- The names that the items of a pattern bind. -/
def itemNames : List Pattern → List Name
  | [] => []
  | p :: more => p.names ++ itemNames more

/-- The names that the last part of a pattern binds. -/
def restNames : Option Pattern → List Name
  | none => []
  | some p => p.names

end

end Extraction.Script
