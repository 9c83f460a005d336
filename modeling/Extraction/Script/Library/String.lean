import Extraction.Script.Library.Regexp
import Extraction.Text.Normalize

/-!
# Methods of strings

Positions count units. Letters are changed in case and normalised character by character; a lone
surrogate stays what it is.

## Main definitions

* `Machine.stringMethod`: the methods
* `Machine.stringFunction`: the functions of `String`
-/

namespace Extraction.Script

namespace Machine

open Run

/-- Whether a unit is a blank. -/
def isSpaceUnit (u : UInt16) : Bool := Number.isSpaceCode u.toNat

/-- The string without blanks at its start or its end. -/
def trimUnits (atStart atEnd : Bool) (s : Utf16) : Utf16 :=
  let us := s.toList
  let us := if atStart then us.dropWhile isSpaceUnit else us
  let us := if atEnd then (us.reverse.dropWhile isSpaceUnit).reverse else us
  us.toArray

/-- The first `n` units of a filler repeated. -/
def filling (filler : Utf16) (n : Nat) : Utf16 :=
  (Utf16.replicate (n / filler.size + 1) filler).extract 0 n

/-- The string lengthened by a filler in front or behind. -/
def pad (m : Machine) (atStart : Bool) (s : Utf16) (length filler : Value) : Run Value := do
  let n := (← m.toLength length)
  if n ≤ s.size then return .string s
  let filler ← if filler.isUndefined then pure #[32] else m.toStr filler
  if filler.isEmpty then return .string s
  if 1073741824 < n then fail .range "Invalid string length".toList
  let more := filling filler (n - s.size)
  return .string (if atStart then more ++ s else s ++ more)

/-- The form of normalisation that a name stands for. -/
def normalForm? (s : Text) : Option Text.NormalForm :=
  if s = "NFC".toList then some ⟨true, false⟩
  else if s = "NFD".toList then some ⟨false, false⟩
  else if s = "NFKC".toList then some ⟨true, true⟩
  else if s = "NFKD".toList then some ⟨false, true⟩
  else none

/-- The pieces of a string between the occurrences of a separator. -/
def piecesBy (s separator : Utf16) : (fuel i : Nat) → List Value
  | 0, i => [.string (s.extract i s.size)]
  | fuel + 1, i =>
    match Utf16.indexOf? s separator i with
    | some j => .string (s.extract i j) :: piecesBy s separator fuel (j + separator.size)
    | none => [.string (s.extract i s.size)]

/-- All positions of a string in another, without overlap. -/
def positionsOf (s needle : Utf16) : (fuel i : Nat) → List Nat
  | 0, _ => []
  | fuel + 1, i =>
    if s.size < i then []
    else
      match Utf16.indexOf? s needle i with
      | some j => j :: positionsOf s needle fuel (j + max 1 needle.size)
      | none => []

/-- A string with occurrences of another replaced: the first, or all. -/
def replaceText (m : Machine) (all : Bool) (s needle : Utf16) (replacement : Value) : Run Value := do
  let replacement ← m.toReplacement replacement
  let found := positionsOf s needle (s.size + 2) 0
  let found := if all then found else found.take 1
  let (out, last) ← found.foldlM (fun (out, last) i => do
    let t ← m.substitute replacement ⟨s, i, i + needle.size, #[], []⟩ (return .undefined)
    return (out ++ s.extract last i ++ t, i + needle.size)) ((#[] : Utf16), 0)
  return .string (out ++ s.extract last s.size)

/-- The expression of an argument: the argument itself, or one made of it. -/
def asRegexp (m : Machine) (v : Value) (flags : String) : Run (Ref × Regexp) := do
  match ← regexpOf? v with
  | some (r, _, e) => return (r, e)
  | none =>
    match ← regexpOf? (← m.newRegexp v (if flags.isEmpty then .undefined else .word flags)) with
    | some (r, _, e) => return (r, e)
    | none => failNoRegexp

/-- The string that an argument is, which must not be a regular expression. -/
def plainArgument (m : Machine) (v : Value) : Run Utf16 := do
  if (← regexpOf? v).isSome then
    failType "First argument to String.prototype method must not be a regular expression"
  m.toStr v

/-- The methods of strings. -/
def stringMethod (m : Machine) (f : StringMethod) (self : Value) (args : Array Value) :
    Run Value := do
  if self.isNullish then failType "this is null or undefined"
  let a := argument args 0
  let b := argument args 1
  match f with
  | .toString | .valueOf =>
    match self with
    | .string s => return .string s
    | .object r =>
      match (← objectAt r).kind with
      | .wrapper (.string s) => return .string s
      | _ => failType "'this' is not a string"
    | _ => failType "'this' is not a string"
  | f =>
    let s ← m.toStr self
    match f with
    | .charAt =>
      let n ← m.toClamped (-1) s.size a
      return if n < 0 then .string #[] else (unitAt? s n.toNat).getD (.string #[])
    | .charCodeAt =>
      let n ← m.toClamped (-1) s.size a
      match (if n < 0 then none else s[n.toNat]?) with
      | some u => return .nat u.toNat
      | none => return .number Number.nan
    | .codePointAt =>
      let n ← m.toClamped (-1) s.size a
      match (if n < 0 then none else s.codePointAt? n.toNat) with
      | some (c, _) => return .nat c
      | none => return .undefined
    | .at =>
      let n ← m.toClamped (-(s.size : Int) - 1) s.size a
      let i := if n < 0 then (s.size : Int) + n else n
      return if i < 0 then .undefined else (unitAt? s i.toNat).getD .undefined
    | .concat =>
      let rest ← args.toList.mapM m.toStr
      return .string (rest.foldl (· ++ ·) s)
    | .includes =>
      let t ← m.plainArgument a
      let i ← m.toClamped 0 s.size b
      return .bool (Utf16.indexOf? s t i.toNat).isSome
    | .startsWith =>
      let t ← m.plainArgument a
      let i ← m.toClamped 0 s.size b
      return .bool (Utf16.occursAt s t i.toNat)
    | .endsWith =>
      let t ← m.plainArgument a
      let i ← if b.isUndefined then pure (s.size : Int) else m.toClamped 0 s.size b
      return .bool (t.size ≤ i.toNat && Utf16.occursAt s t (i.toNat - t.size))
    | .indexOf =>
      let t ← m.toStr a
      let i ← m.toClamped 0 s.size b
      match Utf16.indexOf? s t i.toNat with
      | some j => return .nat j
      | none => return .number (.int (-1))
    | .lastIndexOf =>
      let t ← m.toStr a
      let x ← m.toNumber b
      let i ← if x.toFloat.isNaN then pure (s.size : Int) else m.toClamped 0 s.size b
      match Utf16.lastIndexOf? s t i.toNat with
      | some j => return .nat j
      | none => return .number (.int (-1))
    | .localeCompare =>
      let t ← m.toStr a
      return .number (.int (if Utf16.before s t then -1 else if s == t then 0 else 1))
    | .normalize =>
      let form ← if a.isUndefined then pure "NFC".toList else m.toText a
      match normalForm? form with
      | some form => return .string (Utf16.mapText (Text.normalize form) s)
      | none =>
        fail .range "The normalization form should be one of NFC, NFD, NFKC, NFKD.".toList
    | .padStart => m.pad true s a b
    | .padEnd => m.pad false s a b
    | .repeat =>
      let x ← m.toWhole a
      if x < 0.0 || x.isInf then
        fail .range
          ("repeat count must be a positive finite number that doesn't overflow the maximum " ++
            "string length (2^32 - 1)").toList
      let n := (Number.truncate x).toNat
      if 1073741824 < n * s.size then
        fail .range "repeat count must not overflow maximum string length (2^32 - 1)".toList
      return .string (if s.isEmpty then #[] else Utf16.replicate n s)
    | .slice =>
      let i ← m.toRelative s.size 0 a
      let j ← m.toRelative s.size s.size b
      return .string (s.extract i j)
    | .substring =>
      let i ← m.toClamped 0 s.size a
      let j ← if b.isUndefined then pure (s.size : Int) else m.toClamped 0 s.size b
      return .string (s.extract (min i j).toNat (max i j).toNat)
    | .substr =>
      let i ← m.toRelative s.size 0 a
      let n ← if b.isUndefined then pure ((s.size - i : Nat) : Int)
        else m.toClamped 0 ((s.size - i : Nat) : Int) b
      return .string (s.extract i (i + n.toNat))
    | .toLowerCase | .toLocaleLowerCase => return .string (Utf16.mapText Text.toLower s)
    | .toUpperCase | .toLocaleUpperCase => return .string (Utf16.mapText Text.toUpper s)
    | .trim => return .string (trimUnits true true s)
    | .trimStart => return .string (trimUnits true false s)
    | .trimEnd => return .string (trimUnits false true s)
    | .isWellFormed => return .bool s.toText?.isSome
    | .toWellFormed =>
      return .string (Utf16.ofCodePoints (s.codePoints.map fun n =>
        if 0xD800 ≤ n && n < 0xE000 then 0xFFFD else n))
    | .iterator =>
      let parts := s.codePoints.map fun n => Value.string (Utf16.ofCodePoints [n])
      return .object
        (← newObject Intrinsic.iterator.ref (.listIterator parts.toArray 0 "String Iterator"))
    | .split =>
      let pieces ← match ← regexpOf? a with
        | some (_, _, e) => pure (splitBy e s)
        | none =>
          if a.isUndefined then pure [Value.string s]
          else do
            let separator ← m.toStr a
            pure (if separator.isEmpty then s.toList.map fun u => Value.string #[u]
              else piecesBy s separator (s.size + 1) 0)
      if b.isUndefined then arrayOf pieces
      else return ← arrayOf (pieces.take (← m.toNumber b).toWord)
    | .search =>
      let (_, e) ← m.asRegexp a ""
      match (if e.flags.sticky then Regexp.matchAt? e s 0 else Regexp.find? e s 0) with
      | some f => return .nat f.first
      | none => return .number (.int (-1))
    | .matched =>
      let (r, e) ← m.asRegexp a ""
      if e.flags.global then
        m.setLastIndex r 0
        match allMatches e s with
        | [] => return .null
        | found => arrayOf (found.map fun f => .string (s.extract f.first f.last))
      else
        match ← m.execRegexp r e s with
        | some f => matchArray e s f
        | none => return .null
    | .matchAll =>
      if let some (_, _, e) ← regexpOf? a then
        if !e.flags.global then
          failType "String.prototype.matchAll called with a non-global RegExp argument"
      let (_, e) ← m.asRegexp a "g"
      let found ← (allMatches e s).mapM fun f => matchArray e s f
      return .object
        (← newObject Intrinsic.iterator.ref (.listIterator found.toArray 0 "RegExp String Iterator"))
    | .replace =>
      match ← regexpOf? a with
      | some (r, _, e) => m.replaceIn r e s (← m.toReplacement b)
      | none => m.replaceText false s (← m.toStr a) b
    | .replaceAll =>
      match ← regexpOf? a with
      | some (r, _, e) =>
        if !e.flags.global then
          failType "String.prototype.replaceAll called with a non-global RegExp argument"
        m.replaceIn r e s (← m.toReplacement b)
      | none => m.replaceText true s (← m.toStr a) b
    | .toString | .valueOf => return .string s

/-- The functions of `String`. -/
def stringFunction (m : Machine) (f : StringFunction) (args : Array Value) : Run Value := do
  match f with
  | .fromCharCode =>
    let units ← args.mapM fun v => do
      return UInt16.ofNat ((← m.toNumber v).toWord % 65536)
    return .string units
  | .fromCodePoint =>
    let codes ← args.toList.mapM fun v => do
      let x ← m.toFloat v
      if Number.isFinite x && x == x.floor && 0.0 ≤ x && x ≤ 1114111.0 then
        return (Number.truncate x).toNat
      else fail .range "codepoint is not valid".toList
    return .string (Utf16.ofCodePoints codes)
  | .raw =>
    let raw ← m.getWord (.object (← toObject (argument args 0))) "raw"
    let parts ← m.listOf (.object (← toObject raw))
    let (out, _) ← parts.toList.foldlM (fun (out, i) v => do
      let out := out ++ (← m.toStr v)
      let out ← if i < parts.size && i < args.size then do
          let s ← m.toStr (argument args i)
          pure (out ++ s)
        else pure out
      return (out, i + 1)) ((#[] : Utf16), 1)
    return .string out

end Machine

end Extraction.Script
