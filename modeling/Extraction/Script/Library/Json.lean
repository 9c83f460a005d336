import Extraction.Script.Library.Array

/-!
# JSON texts in scripts

Scripts read and write JSON texts of their own: strings may hold lone surrogates, and functions may
have a say in what is read and written.

## Main definitions

* `Machine.parseJson`: the value that a text writes
* `Machine.stringifyJson`: the text of a value
-/

namespace Extraction.Script

/-- A JSON text as it is read, before there are objects. -/
inductive JsonTree where
  | value (v : Value)
  | array (items : List JsonTree)
  | object (members : List (Utf16 × JsonTree))

namespace JsonTree

/-- Whether a unit is white space of JSON. -/
def isSpace (u : UInt16) : Bool := u == 32 || u == 9 || u == 10 || u == 13

/-- The text after white space. -/
def skip (s : List UInt16) : List UInt16 := s.dropWhile isSpace

/-- The ASCII character of a unit. -/
def toChar (u : UInt16) : Char := if u < 128 then Char.ofNat u.toNat else Char.ofNat 0xFFFD

/-- The rest after a word. -/
def after? (w : String) (s : List UInt16) : Option (List UInt16) :=
  (w.toList.map fun c => UInt16.ofNat c.toNat).isPrefixOf? s

/-- A string up to its closing quote, read after the opening one. -/
def string? : (fuel : Nat) → (acc : Utf16) → List UInt16 → Option (Utf16 × List UInt16)
  | 0, _, _ => none
  | _ + 1, _, [] => none
  | _ + 1, acc, 34 :: rest => some (acc, rest)
  | fuel + 1, acc, 92 :: c :: rest =>
    match toChar c with
    | '"' => string? fuel (acc.push 34) rest
    | '\\' => string? fuel (acc.push 92) rest
    | '/' => string? fuel (acc.push 47) rest
    | 'b' => string? fuel (acc.push 8) rest
    | 'f' => string? fuel (acc.push 12) rest
    | 'n' => string? fuel (acc.push 10) rest
    | 'r' => string? fuel (acc.push 13) rest
    | 't' => string? fuel (acc.push 9) rest
    | 'u' =>
      let ds := (rest.take 4).map toChar
      if ds.length == 4 && ds.all (fun d => (Text.digitValue? 16 d).isSome) then
        string? fuel (acc.push (UInt16.ofNat (Number.ofDigits 16 ds))) (rest.drop 4)
      else none
    | _ => none
  | fuel + 1, acc, u :: rest => if u < 32 then none else string? fuel (acc.push u) rest

/-- The length of the number at the start, if one stands there. -/
def numberLength? (s : Text) : Option Nat :=
  let body := if s.head? == some '-' then s.drop 1 else s
  let whole := body.takeWhile Char.isDigit
  if whole.isEmpty || (whole.head? == some '0' && whole.length > 1) then none
  else
    let rest := body.drop whole.length
    let fraction? : Option Text := match rest with
      | '.' :: more => if (more.takeWhile Char.isDigit).isEmpty then none
          else some (more.dropWhile Char.isDigit)
      | rest => some rest
    fraction?.bind fun rest =>
      let rest? : Option Text := match rest with
        | e :: more =>
          if e == 'e' || e == 'E' then
            let digits := match more with
              | '+' :: ds => ds
              | '-' :: ds => ds
              | ds => ds
            if (digits.takeWhile Char.isDigit).isEmpty then none
            else some (digits.dropWhile Char.isDigit)
          else some (e :: more)
        | [] => some []
      rest?.map fun rest => s.length - rest.length

/-- The number at the start. -/
def number? (s : List UInt16) : Option (Number × List UInt16) :=
  let run := (s.takeWhile fun u => "+-.0123456789eE".toList.contains (toChar u)).map toChar
  match numberLength? run with
  | none => none
  | some n =>
    let text := run.take n
    let value := match text with
      | '-' :: digits => (Number.ofLiteral (Number.ofText digits)).neg
      | digits => Number.ofLiteral (Number.ofText digits)
    some (value, s.drop n)

mutual

/-- A value after white space. -/
def read? : (fuel : Nat) → List UInt16 → Option (JsonTree × List UInt16)
  | 0, _ => none
  | fuel + 1, s =>
    let s := skip s
    match s with
    | 34 :: rest => (string? (rest.length + 1) #[] rest).map fun (t, rest) => (.value (.string t), rest)
    | 91 :: rest =>
      match after? "]" (skip rest) with
      | some rest => some (.array [], rest)
      | none => (items? fuel rest).map fun (items, rest) => (.array items, rest)
    | 123 :: rest =>
      match after? "\x7d" (skip rest) with
      | some rest => some (.object [], rest)
      | none => (members? fuel rest).map fun (members, rest) => (.object members, rest)
    | s =>
      match after? "null" s, after? "true" s, after? "false" s with
      | some rest, _, _ => some (.value .null, rest)
      | _, some rest, _ => some (.value (.bool true), rest)
      | _, _, some rest => some (.value (.bool false), rest)
      | none, none, none => (number? s).map fun (n, rest) => (.value (.number n), rest)

/-- Items up to a closing bracket. -/
def items? : (fuel : Nat) → List UInt16 → Option (List JsonTree × List UInt16)
  | 0, _ => none
  | fuel + 1, s =>
    match read? fuel s with
    | none => none
    | some (v, rest) =>
      match after? "]" (skip rest) with
      | some rest => some ([v], rest)
      | none =>
        match after? "," (skip rest) with
        | some rest => (items? fuel rest).map fun (vs, rest) => (v :: vs, rest)
        | none => none

/-- Members up to a closing brace. -/
def members? : (fuel : Nat) → List UInt16 → Option (List (Utf16 × JsonTree) × List UInt16)
  | 0, _ => none
  | fuel + 1, s =>
    match skip s with
    | 34 :: rest =>
      match string? (rest.length + 1) #[] rest with
      | none => none
      | some (k, rest) =>
        match after? ":" (skip rest) with
        | none => none
        | some rest =>
          match read? fuel rest with
          | none => none
          | some (v, rest) =>
            match after? "\x7d" (skip rest) with
            | some rest => some ([(k, v)], rest)
            | none =>
              match after? "," (skip rest) with
              | some rest => (members? fuel rest).map fun (ms, rest) => ((k, v) :: ms, rest)
              | none => none
    | _ => none

end

/-- The value that a whole text writes. -/
def parse? (s : Utf16) : Option JsonTree :=
  match read? (2 * s.size + 2) s.toList with
  | some (v, rest) => if (skip rest).isEmpty then some v else none
  | none => none

mutual

/-- The value of a tree, its objects made. -/
def build : JsonTree → Run Value
  | .value v => return v
  | .array items => do Run.newArray (← buildItems #[] items)
  | .object members => do
    let r ← Run.newObject Intrinsic.object.ref .ordinary
    buildMembers r members
    return .object r

/-- The values of trees. -/
def buildItems (acc : Array Value) : List JsonTree → Run (Array Value)
  | [] => return acc
  | t :: rest => do
    let v ← build t
    buildItems (acc.push v) rest

/-- Gives an object members. -/
def buildMembers (r : Ref) : List (Utf16 × JsonTree) → Run Unit
  | [] => pure ()
  | (k, t) :: rest => do
    let v ← build t
    Run.put r (.name k) v
    buildMembers r rest

end

end JsonTree

namespace Machine

open Run

/-- The value under a key after a function has had its say about it and all that is in it. -/
def revive (m : Machine) (f : Value) : (fuel : Nat) → Ref → PropertyKey → Run Value
  | 0, _, _ => throw .limit
  | fuel + 1, holder, k => do
    let v ← m.get (.object holder) k
    match v with
    | .object r =>
      let keys ← match (← objectAt r).kind with
        | .array _ length => pure ((List.range length).map PropertyKey.nat)
        | _ => pure ((← ownNames r).map PropertyKey.name)
      for k in keys do
        let u ← revive m f fuel r k
        if u.isUndefined then
          let _ ← deleteProperty r k
          pure ()
        else put r k u
    | _ => pure ()
    m.call f (.object holder) #[k.toValue, v]

/-- The value that a text writes. -/
def parseJson (m : Machine) (args : Array Value) : Run Value := do
  let s ← m.toStr (argument args 0)
  match JsonTree.parse? s with
  | none => fail .grammar "invalid JSON text".toList
  | some t =>
    let v ← t.build
    let f := argument args 1
    if ← isCallable f then
      let root ← newPlain
      put root (.name #[]) v
      m.revive f 10000 root (.name #[])
    else return v

/-- A string as JSON writes it. -/
def quoteJson (s : Utf16) : Utf16 :=
  let lowerHex (n : Nat) : Text := (unitHex n).map Char.toLower
  let body := s.codePoints.flatMap fun n =>
    match n with
    | 8 => "\\b".toList
    | 9 => "\\t".toList
    | 10 => "\\n".toList
    | 12 => "\\f".toList
    | 13 => "\\r".toList
    | 34 => "\\\"".toList
    | 92 => "\\\\".toList
    | n =>
      if n < 32 || (0xD800 ≤ n && n < 0xE000) then '\\' :: 'u' :: lowerHex n else [Char.ofNat n]
  Utf16.ofText ('"' :: body ++ ['"'])
where
  /-- Four digits. -/
  unitHex (n : Nat) : Text :=
    [Utf16.hexDigit (n / 4096), Utf16.hexDigit (n / 256 % 16), Utf16.hexDigit (n / 16 % 16),
      Utf16.hexDigit (n % 16)]

/-- How values are written: who has a say, which members are shown, and how lines are indented. -/
structure JsonStyle where
  replacer : Option Value
  shown : Option (List Utf16)
  gap : Utf16

/-- Texts between brackets, on lines of their own if there is a gap. -/
def bracketed (opening closing : String) (gap indent : Utf16) (parts : List Utf16) : Utf16 :=
  match parts with
  | [] => Utf16.ofWord (opening ++ closing)
  | first :: rest =>
    if gap.isEmpty then
      Utf16.ofWord opening ++ rest.foldl (fun acc p => (acc.push 44) ++ p) first ++
        Utf16.ofWord closing
    else
      let inner := indent ++ gap
      Utf16.ofWord (opening ++ "\n") ++ inner ++
        rest.foldl (fun acc p => acc ++ Utf16.ofWord ",\n" ++ inner ++ p) first ++
        Utf16.ofWord "\n" ++ indent ++ Utf16.ofWord closing

/-- The value that is written for a value: what its `toJSON` method and the replacer say, and what is
wrapped in an object. -/
def jsonValue (m : Machine) (style : JsonStyle) (holder : Value) (k : PropertyKey) (v : Value) :
    Run Value := do
  let v ← match v with
    | .object _ | .bigint _ =>
      let f ← m.getWord v "toJSON"
      if ← isCallable f then m.call f v #[k.toValue] else pure v
    | v => pure v
  let v ← match style.replacer with
    | some f => m.call f holder #[k.toValue, v]
    | none => pure v
  match v with
  | .object r =>
    match (← objectAt r).kind with
    | .wrapper (.number _) => return .number (← m.toNumber v)
    | .wrapper (.string _) => return .string (← m.toStr v)
    | .wrapper (.bool b) => return .bool b
    | .wrapper (.bigint n) => return .bigint n
    | _ => return v
  | v => return v

/-- The text of the value under a key; none if it has none. Objects may not hold one another in a
circle. -/
def writeJson (m : Machine) (style : JsonStyle) : (fuel : Nat) → (around : List Ref) →
    (indent : Utf16) → (holder : Value) → (k : PropertyKey) → (v : Value) → Run (Option Utf16)
  | 0, _, _, _, _, _ => failType "cyclic object value"
  | fuel + 1, around, indent, holder, k, v => do
    match ← m.jsonValue style holder k v with
    | .null => return some (Utf16.ofWord "null")
    | .bool b => return some (Utf16.ofWord (if b then "true" else "false"))
    | .number n =>
      return some (if Number.isFinite n.toFloat then Utf16.ofText n.toText else Utf16.ofWord "null")
    | .string s => return some (quoteJson s)
    | .bigint _ => failType "cannot serialize bigint to JSON"
    | .undefined | .symbol _ => return none
    | .object r =>
      if ← isCallable (.object r) then return none
      if around.contains r then failType "cyclic object value"
      let inner := indent ++ style.gap
      match (← objectAt r).kind with
      | .array .. =>
        let items ← m.listOf (.object r)
        let parts ← items.toList.zipIdx.mapM fun (v, i) => do
          let t ← writeJson m style fuel (r :: around) inner (.object r) (.nat i) v
          return t.getD (Utf16.ofWord "null")
        return some (bracketed "[" "]" style.gap indent parts)
      | _ =>
        let names ← match style.shown with
          | some names => pure names
          | none => ownNames r
        let parts ← names.filterMapM fun n => do
          let v ← m.get (.object r) (.name n)
          match ← writeJson m style fuel (r :: around) inner (.object r) (.name n) v with
          | some t =>
            let colon := if style.gap.isEmpty then ":" else ": "
            return some (quoteJson n ++ Utf16.ofWord colon ++ t)
          | none => return none
        return some (bracketed "\x7b" "\x7d" style.gap indent parts)

/-- The gap that an argument stands for: so many blanks, or the start of a string. -/
def jsonGap (m : Machine) (v : Value) : Run Utf16 := do
  let v ← match v with
    | .object r =>
      match (← objectAt r).kind with
      | .wrapper (.number _) => pure (Value.number (← m.toNumber v))
      | .wrapper (.string _) => pure (Value.string (← m.toStr v))
      | _ => pure v
    | v => pure v
  match v with
  | .number _ =>
    let n ← m.toClamped 0 10 v
    return Utf16.replicate n.toNat #[32]
  | .string s => return s.extract 0 10
  | _ => return #[]

/-- The text of a value. -/
def stringifyJson (m : Machine) (args : Array Value) : Run Value := do
  let replacer := argument args 1
  let function ← isCallable replacer
  let shown ← match ← isArray replacer with
    | true => do
      let items ← m.listOf replacer
      let names ← items.toList.filterMapM fun v => do
        match v with
        | .string s => return some s
        | .number n => return some (Utf16.ofText n.toText)
        | _ => return none
      pure (some names.eraseDups)
    | false => pure none
  let gap ← m.jsonGap (argument args 2)
  let style : JsonStyle := ⟨if function then some replacer else none, shown, gap⟩
  let root ← newPlain
  put root (.name #[]) (argument args 0)
  match ← m.writeJson style 10000 [] #[] (.object root) (.name #[]) (argument args 0) with
  | some t => return .string t
  | none => return .undefined

end Machine

end Extraction.Script
