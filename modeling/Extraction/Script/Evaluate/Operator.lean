import Extraction.Script.Iterate

/-!
# Operators

What the operators do with values: numbers are calculated with, strings are joined, and whole
numbers beyond doubles stay among themselves.

## Main definitions

* `Machine.binary`: the operators between two values
* `Machine.unaryNumeric`: the operators in front of a number
-/

namespace Extraction.Script

/-- An operation on two numbers. -/
def Number.operate (op : BinaryOp) (a b : Number) : Number :=
  match op with
  | .add => a.add b
  | .sub => a.sub b
  | .mul => a.mul b
  | .div => a.div b
  | .rem => a.rem b
  | .pow => a.pow b
  | .shiftLeft => a.shiftLeft b
  | .shiftRight => a.shiftRight b
  | .shiftRightZero => a.shiftRightZero b
  | .bitAnd => Number.bitwise Nat.land a b
  | .bitOr => Number.bitwise Nat.lor a b
  | .bitXor => Number.bitwise Nat.xor a b
  | _ => Number.nan

/-- The bits of an integer below `2 ^ width`, two's complement. -/
def wordOfInt (width : Nat) (n : Int) : Nat := (n % ((1 <<< width : Nat) : Int)).toNat

/-- An operation on the bits of integers, which are long enough for both. -/
def Int.bitwise (f : Nat → Nat → Nat) (a b : Int) : Int :=
  let width := max a.natAbs.log2 b.natAbs.log2 + 2
  let w := f (wordOfInt width a) (wordOfInt width b) % (1 <<< width)
  if w < 1 <<< (width - 1) then w else (w : Int) - ((1 <<< width : Nat) : Int)

/-- The widest shift and the greatest power of whole numbers that are worked out. -/
def widestPower : Nat := 100000

/-- A whole number with its bits moved. -/
def shiftInt (a b : Int) : Int :=
  if 0 ≤ b then a * ((1 <<< min b.toNat widestPower : Nat) : Int)
  else Int.fdiv a ((1 <<< min b.natAbs widestPower : Nat) : Int)

namespace Machine

open Run

/-- An operation on two whole numbers beyond doubles. -/
def operateInt (op : BinaryOp) (a b : Int) : Run Value := do
  match op with
  | .add => return .bigint (a + b)
  | .sub => return .bigint (a - b)
  | .mul => return .bigint (a * b)
  | .div => if b == 0 then fail .range "BigInt division by zero".toList else return .bigint (Int.tdiv a b)
  | .rem => if b == 0 then fail .range "BigInt division by zero".toList else return .bigint (Int.tmod a b)
  | .pow =>
    if b < 0 then fail .range "BigInt negative exponent".toList
    else if widestPower < b then fail .range "Maximum BigInt size exceeded".toList
    else return .bigint (Int.pow a b.toNat)
  | .shiftLeft => return .bigint (shiftInt a b)
  | .shiftRight => return .bigint (shiftInt a (-b))
  | .shiftRightZero => failType "BigInts have no unsigned right shift, use >> instead"
  | .bitAnd => return .bigint (Int.bitwise Nat.land a b)
  | .bitOr => return .bigint (Int.bitwise Nat.lor a b)
  | .bitXor => return .bigint (Int.bitwise Nat.xor a b)
  | _ => return .undefined

/-- An operation of arithmetic or on bits. -/
def arithmetic (m : Machine) (op : BinaryOp) (a b : Value) : Run Value := do
  let x ← m.toNumeric a
  let y ← m.toNumeric b
  match x, y with
  | .number x, .number y => return .number (x.operate op y)
  | .bigint x, .bigint y => operateInt op x y
  | _, _ => failType "cannot mix BigInt and other types, use explicit conversions"

/-- A sum, or two strings joined. -/
def plus (m : Machine) (a b : Value) : Run Value := do
  match a, b with
  | .number x, .number y => return .number (x.add y)
  | .string s, .string t => return .string (s ++ t)
  | a, b =>
    let p ← m.toPrimitive .none a
    let q ← m.toPrimitive .none b
    match p, q with
    | .string s, q => return .string (s ++ (← plainText q))
    | p, .string t => return .string ((← plainText p) ++ t)
    | p, q => m.arithmetic .add p q

/-- The operators between two values. -/
def binary (m : Machine) (op : BinaryOp) (a b : Value) : Run Value := do
  match op with
  | .add => m.plus a b
  | .looseEq => return .bool (← m.looseEquals 16 a b)
  | .looseNe => return .bool !(← m.looseEquals 16 a b)
  | .strictEq => return .bool (strictEquals a b)
  | .strictNe => return .bool !(strictEquals a b)
  | .less => return .bool ((← m.compare false a b).getD false)
  | .greater => return .bool ((← m.compare true a b).getD false)
  | .lessEq => return .bool (!(← m.compare true a b).getD true)
  | .greaterEq => return .bool (!(← m.compare false a b).getD true)
  | .instanceOf => return .bool (← m.instanceOf a b)
  | .isIn =>
    match b with
    | .object r =>
      let k ← m.toKey a
      return .bool (← property? r k).isSome
    | _ => failType "right-hand side of 'in' should be an object"
  | op =>
    match a, b with
    | .number x, .number y => return .number (x.operate op y)
    | a, b => m.arithmetic op a b

/-- The operators in front of a number. -/
def unaryNumeric (m : Machine) (op : UnaryOp) (v : Value) : Run Value := do
  match op with
  | .plus =>
    match v with
    | .bigint _ => failType "argument must not be a bigint"
    | v => return .float (← m.toFloat v)
  | .minus =>
    match ← m.toNumeric v with
    | .number n => return .number n.neg
    | .bigint n => return .bigint (-n)
  | .bitNot =>
    match ← m.toNumeric v with
    | .number n => return .number n.bitNot
    | .bigint n => return .bigint (-n - 1)
  | _ => return .undefined

end Machine

end Extraction.Script
