import Extraction.Script.Library.Object

/-!
# Functions on numbers and other plain values

## Main definitions

* `Machine.numberMethod`, `Machine.numberFunction`, `Machine.mathFunction`
* `Machine.booleanMethod`, `Machine.symbolMethod`, `Machine.bigintMethod`
* `Machine.globalFunction`: the functions that stand by themselves
-/

namespace Extraction.Script

namespace Machine

open Run

/-- The number that a value is or wraps. -/
def thisNumber (v : Value) : Run Number := do
  match v with
  | .number n => return n
  | .object r =>
    match (← objectAt r).kind with
    | .wrapper (.number n) => return n
    | _ => failType "'this' is not a number"
  | _ => failType "'this' is not a number"

/-- A count of digits between bounds; none if nothing is given. -/
def digitCount (m : Machine) (v : Value) (low high : Int) (message : String) : Run (Option Nat) := do
  if v.isUndefined then return none
  let n ← m.toClamped (low - 1) (high + 1) v
  if n < low || high < n then fail .range message.toList
  return some n.toNat

/-- The methods of numbers. -/
def numberMethod (m : Machine) (f : NumberMethod) (self : Value) (args : Array Value) :
    Run Value := do
  let n ← thisNumber self
  let x := n.toFloat
  let a := argument args 0
  match f with
  | .valueOf => return .number n
  | .toLocaleString => return .text n.toText
  | .toString =>
    if a.isUndefined then return .text n.toText
    let radix ← m.toClamped 0 100 a
    if radix < 2 || 36 < radix then
      fail .range "radix must be an integer at least 2 and no greater than 36".toList
    return .text (n.inRadix radix.toNat)
  | .toFixed =>
    let places ← m.digitCount a 0 100 "toFixed() digits argument must be between 0 and 100"
    if !Number.isFinite x || 1e21 ≤ x then return .text n.toText
    return .text (Number.fixed (if x == 0 then 0 else x) (places.getD 0))
  | .toExponential =>
    if !Number.isFinite x then return .text n.toText
    let places ← m.digitCount a 0 100 "toExponential() argument must be between 0 and 100"
    return .text (Number.exponential x places)
  | .toPrecision =>
    if a.isUndefined then return .text n.toText
    if !Number.isFinite x then return .text n.toText
    let count ← m.digitCount a 1 100 "precision must be an integer at least 1 and no greater than 100"
    return .text (Number.precise x (count.getD 1))

/-- The functions of `Number`, which convert nothing. -/
def numberFunction (f : NumberFunction) (args : Array Value) : Value :=
  match argument args 0 with
  | .number n =>
    let x := n.toFloat
    let whole := Number.isFinite x && x == x.floor
    match f with
    | .isFinite => .bool (Number.isFinite x)
    | .isInteger => .bool whole
    | .isNaN => .bool x.isNaN
    | .isSafeInteger => .bool (whole && x.abs ≤ 9007199254740991.0)
  | _ => .bool false

/-- A whole number nearest to a double, the higher one of two. -/
def roundUp (x : Float) : Float :=
  if !Number.isFinite x || x == x.floor then x
  else
    let f := x.floor
    let r := if 0.5 ≤ x - f then f + 1.0 else f
    if r == 0.0 && x < 0.0 then -0.0 else r

/-- The greater of two doubles; zero is greater than minus zero. -/
def maxFloat (x y : Float) : Float :=
  if x.isNaN || y.isNaN then 0.0 / 0.0
  else if x < y then y
  else if y < x then x
  else if Number.signBit x then y else x

/-- The number of zeros at the top of a word. -/
def leadingZeros (w : Nat) : Nat := if w == 0 then 32 else 31 - w.log2

/-- A function of one double. -/
def mathOne (f : MathFunction) (x : Float) : Float :=
  match f with
  | .abs => x.abs
  | .acos => x.acos
  | .acosh => x.acosh
  | .asin => x.asin
  | .asinh => x.asinh
  | .atan => x.atan
  | .atanh => x.atanh
  | .cbrt => x.cbrt
  | .ceil => x.ceil
  | .cos => x.cos
  | .cosh => x.cosh
  | .exp => x.exp
  | .expm1 => if x.abs < 1e-5 then x + x * x / 2.0 + x * x * x / 6.0 else x.exp - 1.0
  | .floor => x.floor
  | .fround => x.toFloat32.toFloat
  | .log => x.log
  | .log10 => x.log10
  | .log1p => if x.abs < 1e-5 then x - x * x / 2.0 + x * x * x / 3.0 else (1.0 + x).log
  | .log2 => x.log2
  | .round => roundUp x
  | .sign => if x.isNaN || x == 0.0 then x else if x < 0.0 then -1.0 else 1.0
  | .sin => x.sin
  | .sinh => x.sinh
  | .sqrt => x.sqrt
  | .tan => x.tan
  | .tanh => x.tanh
  | .trunc => Number.truncFloat x
  | _ => 0.0 / 0.0

/-- The functions of mathematics. Chance always gives one half. -/
def mathFunction (m : Machine) (f : MathFunction) (args : Array Value) : Run Value := do
  let a := argument args 0
  let b := argument args 1
  match f with
  | .random => return .float 0.5
  | .max | .min | .hypot =>
    let xs ← args.toList.mapM m.toFloat
    match f with
    | .max => return .float (xs.foldl maxFloat (-Number.infinity))
    | .min => return .float (-(xs.foldl (fun acc x => maxFloat acc (-x)) (-Number.infinity)))
    | _ =>
      if xs.any Float.isInf then return .float Number.infinity
      let top := xs.foldl (fun acc x => maxFloat acc x.abs) 0.0
      if top == 0.0 || top.isNaN then return .float top
      let sum := xs.foldl (fun acc x => acc + (x / top) * (x / top)) 0.0
      return .float (top * sum.sqrt)
  | .atan2 =>
    let y ← m.toFloat a
    return .float (Float.atan2 y (← m.toFloat b))
  | .pow =>
    let x ← m.toFloat a
    return .float (Number.powFloat x (← m.toFloat b))
  | .imul =>
    let x ← m.toNumber a
    let y ← m.toNumber b
    return .number (.int (Number.signed (x.toWord * y.toWord % 4294967296)))
  | .clz32 => return .nat (leadingZeros (← m.toNumber a).toWord)
  | f => return .float (mathOne f (← m.toFloat a))

/-- The methods of truth values. -/
def booleanMethod (f : PlainMethod) (self : Value) : Run Value := do
  let b ← match self with
    | .bool b => pure b
    | .object r =>
      match (← objectAt r).kind with
      | .wrapper (.bool b) => pure b
      | _ => failType "'this' is not a boolean"
    | _ => failType "'this' is not a boolean"
  match f with
  | .valueOf => return .bool b
  | _ => return .word (if b then "true" else "false")

/-- The methods of symbols. -/
def symbolMethod (f : PlainMethod) (self : Value) : Run Value := do
  let id ← match self with
    | .symbol id => pure id
    | .object r =>
      match (← objectAt r).kind with
      | .wrapper (.symbol id) => pure id
      | _ => failType "'this' is not a Symbol"
    | _ => failType "'this' is not a Symbol"
  let description := ((← MonadState.get).symbols[id]?).join
  match f with
  | .valueOf => return .symbol id
  | .description => return (description.map Value.string).getD .undefined
  | .toString =>
    return .string (Utf16.ofWord "Symbol(" ++ description.getD #[] ++ Utf16.ofWord ")")

/-- The methods of whole numbers beyond doubles. -/
def bigintMethod (m : Machine) (f : PlainMethod) (self : Value) (args : Array Value) :
    Run Value := do
  let n ← match self with
    | .bigint n => pure n
    | .object r =>
      match (← objectAt r).kind with
      | .wrapper (.bigint n) => pure n
      | _ => failType "'this' is not a BigInt"
    | _ => failType "'this' is not a BigInt"
  match f with
  | .valueOf => return .bigint n
  | _ =>
    let a := argument args 0
    let radix ← if a.isUndefined then pure 10 else m.toClamped 0 100 a
    if radix < 2 || 36 < radix then
      fail .range "radix must be an integer at least 2 and no greater than 36".toList
    let ds := Number.radixDigits radix.toNat (n.natAbs.log2 + 2) n.natAbs []
    return .text (if n < 0 then '-' :: ds else ds)

/-- A byte as a percent sign and two hexadecimal digits. -/
def percentByte (n : Nat) : Text := ['%', Utf16.hexDigit (n / 16), Utf16.hexDigit (n % 16)]

/-- A string for an address: characters outside of a set are written as the bytes they have. -/
def encodeFor (keep : Text) (s : Utf16) : Run Value := do
  match s.toText? with
  | none => fail .uri "trying to encode a string with lone surrogates".toList
  | some t =>
    return .text (t.flatMap fun c =>
      if (c.toNat < 128 && c.isAlphanum) || keep.contains c then [c]
      else (Utf8.encodeChar c).flatMap percentByte)

/-- The bytes that follow one another as percent signs and digits, `count` of them. -/
def percentBytes? : (count : Nat) → Text → Option (List Nat × Text)
  | 0, s => some ([], s)
  | count + 1, s =>
    match s with
    | '%' :: a :: b :: rest =>
      match Text.digitValue? 16 a, Text.digitValue? 16 b with
      | some x, some y =>
        (percentBytes? count rest).map fun (bs, rest) => ((16 * x + y) :: bs, rest)
      | _, _ => none
    | _ => none

/-- The text that percent signs and digits stand for; what is in a set is left as it is written. -/
def decodeFor? (keep : Text) : (fuel : Nat) → (acc : Text) → Text → Option Text
  | 0, acc, _ => some acc.reverse
  | _ + 1, acc, [] => some acc.reverse
  | fuel + 1, acc, '%' :: rest =>
    match percentBytes? 1 ('%' :: rest) with
    | some ([b], _) =>
      let count := if b < 0x80 then 1 else if b < 0xE0 then 2 else if b < 0xF0 then 3 else 4
      match percentBytes? count ('%' :: rest) with
      | some (bs, after) =>
        match Utf8.decode bs with
        | [c] =>
          if Utf8.encodeChar c == bs then
            if keep.contains c then
              decodeFor? keep fuel (((('%' :: rest).take 3).reverse) ++ acc) after
            else decodeFor? keep fuel (c :: acc) after
          else none
        | _ => none
      | none => none
    | _ => none
  | fuel + 1, acc, c :: rest => decodeFor? keep fuel (c :: acc) rest

/-- The string of an address read back. -/
def decodeFrom (keep : Text) (s : Utf16) : Run Value := do
  match s.toText? with
  | none => fail .uri "invalid hexadecimal digit found".toList
  | some t =>
    match decodeFor? keep (t.length + 1) [] t with
    | some t => return .text t
    | none => fail .uri "invalid hexadecimal digit found".toList

/-- The marks that have a meaning in addresses. -/
def reservedMarks : Text := ";/?:@&=+$,#".toList

/-- The marks that are left as they are anywhere in an address. -/
def plainMarks : Text := "-_.!~*'()".toList

/-- The four digits of a unit. -/
def unitDigits (n : Nat) : Text :=
  [Utf16.hexDigit (n / 4096), Utf16.hexDigit (n / 256 % 16), Utf16.hexDigit (n / 16 % 16),
    Utf16.hexDigit (n % 16)]

/-- A string with all but some units written as percent signs and digits. -/
def escapeUnits (s : Utf16) : Text :=
  s.toList.flatMap fun u =>
    let n := u.toNat
    let c := Char.ofNat n
    if n < 128 && (c.isAlphanum || "@*_+-./".toList.contains c) then [c]
    else if n < 256 then percentByte n
    else '%' :: 'u' :: unitDigits n

/-- The units that percent signs and digits stand for. -/
def unescapeUnits : (fuel : Nat) → (acc : Utf16) → List UInt16 → Utf16
  | 0, acc, _ => acc
  | _ + 1, acc, [] => acc
  | fuel + 1, acc, u :: rest =>
    let hex (count : Nat) (ds : List UInt16) : Option Nat :=
      let ds := (ds.take count).map fun d => Char.ofNat (min d.toNat 127)
      if ds.length == count && ds.all (fun d => (Text.digitValue? 16 d).isSome) then
        some (Number.ofDigits 16 ds)
      else none
    if u == 37 then
      match (if rest.head? == some 117 then hex 4 (rest.drop 1) else none), hex 2 rest with
      | some n, _ => unescapeUnits fuel (acc.push (UInt16.ofNat n)) (rest.drop 5)
      | none, some n => unescapeUnits fuel (acc.push (UInt16.ofNat n)) (rest.drop 2)
      | none, none => unescapeUnits fuel (acc.push u) rest
    else unescapeUnits fuel (acc.push u) rest

/-- The functions that stand by themselves. -/
def globalFunction (m : Machine) (f : GlobalFunction) (args : Array Value) : Run Value := do
  let a := argument args 0
  match f with
  | .parseInt =>
    let s ← m.toText a
    let radix ← m.toNumber (argument args 1)
    return .float (Number.readInteger s radix.toSigned)
  | .parseFloat => return .float (Number.readFloat (← m.toText a))
  | .isNaN => return .bool (← m.toFloat a).isNaN
  | .isFinite => return .bool (Number.isFinite (← m.toFloat a))
  | .encodeUri => encodeFor (reservedMarks ++ plainMarks) (← m.toStr a)
  | .encodeUriComponent => encodeFor plainMarks (← m.toStr a)
  | .decodeUri => decodeFrom reservedMarks (← m.toStr a)
  | .decodeUriComponent => decodeFrom [] (← m.toStr a)
  | .escape => return .text (escapeUnits (← m.toStr a))
  | .unescape =>
    let s ← m.toStr a
    return .string (unescapeUnits (s.size + 1) #[] s.toList)
  | .eval =>
    match a with
    | .string s => m.script s.toText
    | v => return v

end Machine

end Extraction.Script
