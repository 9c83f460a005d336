import Extraction.Script.Property

/-!
# Conversions between values

How values become plain, numbers, strings and keys, and when two values are equal.

## Main definitions

* `Machine.toPrimitive`, `Machine.toNumeric`, `Machine.toNumber`, `Machine.toStr`, `Machine.toKey`
* `Run.strictEquals`, `Machine.looseEquals`, `sameValue`
* `Machine.compare`: the order of values
-/

namespace Extraction.Script

/-- A number, or a whole number beyond doubles. -/
inductive Numeric where
  | number (n : Number)
  | bigint (n : Int)

/-- The value of a number. -/
def Numeric.toValue : Numeric → Value
  | number n => .number n
  | bigint n => .bigint n

/-- What a conversion to a plain value would rather have. -/
inductive Preference where
  | none
  | number
  | string

/-- The name of a preference. -/
def Preference.name : Preference → String
  | none => "default"
  | number => "number"
  | string => "string"

/-- Whether a value counts as true. -/
def Value.truthy : Value → Bool
  | .undefined | .null => false
  | .bool b => b
  | .number n => !n.isFalsy
  | .bigint n => n != 0
  | .string s => !s.isEmpty
  | .symbol _ | .object _ => true

/-- Whether two values are the same; numbers as `Number.same` says. -/
def sameValue (signs : Bool) : Value → Value → Bool
  | .undefined, .undefined => true
  | .null, .null => true
  | .bool a, .bool b => a == b
  | .number a, .number b => a.same signs b
  | .bigint a, .bigint b => a == b
  | .string a, .string b => a == b
  | .symbol a, .symbol b => a == b
  | .object a, .object b => a == b
  | _, _ => false

/-- Whether two values are equal without conversion. -/
def strictEquals : Value → Value → Bool
  | .number a, .number b => a.eq b
  | a, b => sameValue false a b

/-- The whole number beyond doubles that a text writes. -/
def bigintOfText? (s : Text) : Option Int :=
  let s := Number.trimSpace s
  match s with
  | [] => some 0
  | '0' :: 'x' :: ds | '0' :: 'X' :: ds => (Text.digits? 16 ds).map Int.ofNat
  | '0' :: 'o' :: ds | '0' :: 'O' :: ds => (Text.digits? 8 ds).map Int.ofNat
  | '0' :: 'b' :: ds | '0' :: 'B' :: ds => (Text.digits? 2 ds).map Int.ofNat
  | '-' :: ds => (Text.digits? 10 ds).map fun n => -(n : Int)
  | '+' :: ds => (Text.digits? 10 ds).map Int.ofNat
  | ds => (Text.digits? 10 ds).map Int.ofNat

namespace Machine

open Run

/-- A plain value for a value: the first plain one that its methods give. -/
def toPrimitive (m : Machine) (hint : Preference) (v : Value) : Run Value := do
  match v with
  | .object _ =>
    match ← m.method? v WellKnown.toPrimitive.key with
    | some f =>
      match ← m.call f v #[.word hint.name] with
      | .object _ => failType "cannot convert object to primitive value"
      | p => return p
    | none =>
      let order := match hint with
        | .string => ["toString", "valueOf"]
        | _ => ["valueOf", "toString"]
      let rec attempt : List String → Run Value
        | [] => failType "cannot convert object to primitive value"
        | w :: rest => do
          let f ← m.getWord v w
          if ← isCallable f then
            match ← m.call f v #[] with
            | .object _ => attempt rest
            | p => return p
          else attempt rest
      attempt order
  | v => return v

/-- The string of a plain value. -/
def plainText (v : Value) : Run Utf16 := do
  match v with
  | .undefined => return Utf16.ofWord "undefined"
  | .null => return Utf16.ofWord "null"
  | .bool b => return Utf16.ofWord (if b then "true" else "false")
  | .number n => return Utf16.ofText n.toText
  | .bigint n => return Utf16.ofText (Text.ofInt n)
  | .string s => return s
  | .symbol _ => failType "cannot convert Symbol to string"
  | .object _ => failType "cannot convert object to primitive value"

/-- The string of a value. -/
def toStr (m : Machine) (v : Value) : Run Utf16 := do
  match v with
  | .string s => return s
  | .object _ => plainText (← m.toPrimitive .string v)
  | v => plainText v

/-- The text of a value, lone surrogates written as escapes. -/
def toText (m : Machine) (v : Value) : Run Text := do return (← m.toStr v).toText

/-- The number of a plain value. -/
def plainNumber (v : Value) : Run Number := do
  match v with
  | .undefined => return Number.nan
  | .null => return .float 0.0
  | .bool b => return .float (if b then 1.0 else 0.0)
  | .number n => return n
  | .string s => return .float (Number.ofText s.toText)
  | .bigint _ => failType "argument must not be a bigint"
  | .symbol _ => failType "argument must not be a symbol"
  | .object _ => failType "cannot convert object to primitive value"

/-- The number of a value; whole numbers beyond doubles stay what they are. -/
def toNumeric (m : Machine) (v : Value) : Run Numeric := do
  match v with
  | .number n => return .number n
  | v =>
    match ← m.toPrimitive .number v with
    | .bigint n => return .bigint n
    | p => return .number (← plainNumber p)

/-- The number of a value. -/
def toNumber (m : Machine) (v : Value) : Run Number := do
  match v with
  | .number n => return n
  | v => plainNumber (← m.toPrimitive .number v)

/-- The double of a value. -/
def toFloat (m : Machine) (v : Value) : Run Float := do return (← m.toNumber v).toFloat

/-- The whole part of the number of a value, zero if it is none; infinities stay. -/
def toWhole (m : Machine) (v : Value) : Run Float := do
  match ← m.toNumber v with
  | .int n => return Number.floatOfInt n
  | .float x => return if x.isNaN then 0.0 else Number.truncFloat x + 0.0

/-- The whole part of the number of a value, cut to a range. -/
def toClamped (m : Machine) (low high : Int) (v : Value) : Run Int := do
  let x ← m.toWhole v
  if x.isInf then return if x < 0.0 then low else high
  else
    let n := Number.truncate x
    return max low (min high n)

/-- A position in something so long: one below zero counts from the end. -/
def toRelative (m : Machine) (length : Nat) (absent : Nat) (v : Value) : Run Nat := do
  if v.isUndefined then return absent
  let x ← m.toWhole v
  if x.isInf then return if x < 0.0 then 0 else length
  let n := Number.truncate x
  if n < 0 then return ((length : Int) + n).toNat
  else return min n.toNat length

/-- The length of something like an array. -/
def toLength (m : Machine) (v : Value) : Run Nat := do
  return (← m.toClamped 0 9007199254740991 v).toNat

/-- The length that a value claims to have. -/
def lengthOf (m : Machine) (v : Value) : Run Nat := do
  match v with
  | .object r =>
    match (← objectAt r).kind with
    | .array _ length => return length
    | _ => m.toLength (← m.getWord v "length")
  | v => m.toLength (← m.getWord v "length")

/-- The key of a value. -/
def toKey (m : Machine) (v : Value) : Run PropertyKey := do
  match v with
  | .string s => return .name s
  | .number n => return .name (Utf16.ofText n.toText)
  | .symbol id => return .symbol id
  | v =>
    match ← m.toPrimitive .string v with
    | .symbol id => return .symbol id
    | p => return .name (← plainText p)

/-- Whether a whole number equals a double. -/
def bigintEq (n : Int) (x : Float) : Bool :=
  Number.isFinite x && x == x.floor && Number.truncate x == n

/-- Whether two values are equal, converted to one another where they differ in kind. -/
def looseEquals (m : Machine) : (fuel : Nat) → Value → Value → Run Bool
  | 0, _, _ => return false
  | fuel + 1, a, b => do
    match a, b with
    | .undefined, .null | .null, .undefined => return true
    | .number x, .string s => return x.eq (.float (Number.ofText s.toText))
    | .string s, .number x => return x.eq (.float (Number.ofText s.toText))
    | .bigint n, .string s => return bigintOfText? s.toText == some n
    | .string s, .bigint n => return bigintOfText? s.toText == some n
    | .bigint n, .number x => return bigintEq n x.toFloat
    | .number x, .bigint n => return bigintEq n x.toFloat
    | .bool x, .object _ => m.looseEquals fuel (.float (if x then 1.0 else 0.0)) b
    | .object _, .bool y => m.looseEquals fuel a (.float (if y then 1.0 else 0.0))
    | .object _, .object _ => return strictEquals a b
    | .object _, .undefined | .object _, .null | .undefined, .object _ | .null, .object _ =>
      return false
    | .object _, b => m.looseEquals fuel (← m.toPrimitive .none a) b
    | a, .object _ => m.looseEquals fuel a (← m.toPrimitive .none b)
    | .bool x, .bool y => return x == y
    | .bool x, b => m.looseEquals fuel (.float (if x then 1.0 else 0.0)) b
    | a, .bool y => m.looseEquals fuel a (.float (if y then 1.0 else 0.0))
    | a, b => return strictEquals a b

/-- Whether a whole number is less than a double; none if the double is no number. -/
def bigintLess? (n : Int) (x : Float) : Option Bool :=
  if x.isNaN then none
  else if x.isInf then some (0.0 < x)
  else
    let t := Number.truncate x
    some (n < t || (n == t && Number.floatOfInt t < x))

/-- Whether a double is less than a whole number; none if the double is no number. -/
def lessBigint? (x : Float) (n : Int) : Option Bool :=
  if x.isNaN then none
  else if x.isInf then some (x < 0.0)
  else
    let t := Number.truncate x
    some (t < n || (t == n && x < Number.floatOfInt t))

/-- Whether one plain value is less than another; none if they have no order. -/
def less? (a b : Value) : Run (Option Bool) := do
  match a, b with
  | .string s, .string t => return some (Utf16.before s t)
  | .bigint x, .bigint y => return some (decide (x < y))
  | .bigint x, .string t => return (bigintOfText? t.toText).map fun y => decide (x < y)
  | .string s, .bigint y => return (bigintOfText? s.toText).map fun x => decide (x < y)
  | .bigint x, b => return bigintLess? x (← plainNumber b).toFloat
  | a, .bigint y => return lessBigint? (← plainNumber a).toFloat y
  | a, b => return (← plainNumber a).lt? (← plainNumber b)

/-- Whether one value is less than another, after both have become plain from left to right. With
`swapped` the second is asked to be less than the first. -/
def compare (m : Machine) (swapped : Bool) (a b : Value) : Run (Option Bool) := do
  match a, b with
  | .number x, .number y => return if swapped then y.lt? x else x.lt? y
  | a, b =>
    let p ← m.toPrimitive .number a
    let q ← m.toPrimitive .number b
    if swapped then less? q p else less? p q

/-- The word for the kind of a value. -/
def typeOf (v : Value) : Run String := do
  match v with
  | .undefined => return "undefined"
  | .null => return "object"
  | .bool _ => return "boolean"
  | .number _ => return "number"
  | .bigint _ => return "bigint"
  | .string _ => return "string"
  | .symbol _ => return "symbol"
  | v => return if ← isCallable v then "function" else "object"

/-- Whether an object has another one among its parents, of which there are at most `fuel`. -/
def hasParent (parent : Ref) : (fuel : Nat) → Ref → Run Bool
  | 0, _ => return false
  | fuel + 1, r => do
    match (← objectAt r).proto with
    | some p => if p == parent then return true else hasParent parent fuel p
    | none => return false

/-- Whether a value was made by a function: the `prototype` of the function is among the parents of
the value. -/
def ordinaryInstance (m : Machine) : (fuel : Nat) → (f : Value) → (v : Value) → Run Bool
  | 0, _, _ => return false
  | fuel + 1, f, v => do
    match f with
    | .object r =>
      match (← objectAt r).kind with
      | .bound target _ _ => ordinaryInstance m fuel (.object target) v
      | _ =>
        if !(← isCallable f) then return false
        match v with
        | .object o =>
          match ← m.getWord f "prototype" with
          | .object p => hasParent p ((← MonadState.get).objects.size + 1) o
          | _ => failType "function has non-object prototype in instanceof check"
        | _ => return false
    | _ => return false

/-- The answer of `instanceof`. -/
def instanceOf (m : Machine) (v f : Value) : Run Bool := do
  match f with
  | .object _ =>
    match ← m.method? f WellKnown.hasInstance.key with
    | some h => return (← m.call h f #[v]).truthy
    | none =>
      if ← isCallable f then m.ordinaryInstance 1000 f v
      else failType "right-hand side of 'instanceof' is not callable"
  | _ => failType "right-hand side of 'instanceof' should be an object"

end Machine

end Extraction.Script
