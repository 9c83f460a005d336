import Extraction.Script.Library.Object
import Extraction.Script.Regexp.Match
import Extraction.Script.Regexp.Parser

/-!
# Functions on regular expressions

A regular expression that is global or sticky goes on where its last match ended; its `lastIndex`
says where that was.

## Main definitions

* `Run.makeRegexp`: the object of an expression
* `Machine.execRegexp`, `Machine.matchArray`: one match and the array that tells of it
* `Machine.replaceIn`, `Machine.allMatches`, `Machine.splitBy`: what strings do with expressions
* `Machine.regexpMethod`, `Machine.regexpTrait`
-/

namespace Extraction.Script

namespace Run

/-- The object of an expression. -/
def makeRegexp (source flags : Utf16) : Run Value := do
  match Regexp.parse? source flags with
  | none => fail .grammar "Invalid regular expression".toList
  | some r =>
    let table := PropertyTable.empty.insert (.word "lastIndex") ⟨.data (.nat 0) true, false, false⟩
    return .object (← alloc ⟨some Intrinsic.regexp.ref, true, .regexp source r, table⟩)

/-- The expression that a value is. -/
def regexpOf? (v : Value) : Run (Option (Ref × Utf16 × Regexp)) := do
  match v with
  | .object r =>
    match (← objectAt r).kind with
    | .regexp source e => return some (r, source, e)
    | _ => return none
  | _ => return none

end Run

namespace Machine

open Run

/-- The letters of flags. -/
def flagLetters (f : Regexp.Flags) : Text :=
  [('d', f.indices), ('g', f.global), ('i', f.ignoreCase), ('m', f.multiline), ('s', f.dotAll),
    ('u', f.unicode), ('y', f.sticky)].filterMap fun (c, on) => if on then some c else none

/-- Makes an expression of a pattern, or of another expression, and flags. -/
def newRegexp (m : Machine) (pattern flags : Value) : Run Value := do
  match ← regexpOf? pattern with
  | some (_, source, e) =>
    let flags ← if flags.isUndefined then pure (Utf16.ofText (flagLetters e.flags)) else m.toStr flags
    makeRegexp source flags
  | none =>
    let source ← if pattern.isUndefined then pure #[] else m.toStr pattern
    let flags ← if flags.isUndefined then pure #[] else m.toStr flags
    makeRegexp source flags

/-- Writes where an expression goes on. -/
def setLastIndex (m : Machine) (r : Ref) (n : Nat) : Run Unit :=
  m.set true (.object r) (.word "lastIndex") (.nat n)

/-- The next match of an expression in a string. -/
def execRegexp (m : Machine) (r : Ref) (e : Regexp) (s : Utf16) : Run (Option Regexp.Found) := do
  let goesOn := e.flags.global || e.flags.sticky
  let start ← m.toLength (← m.getWord (.object r) "lastIndex")
  let start := if goesOn then start else 0
  let found :=
    if s.size < start then none
    else if e.flags.sticky then Regexp.matchAt? e s start
    else Regexp.find? e s start
  match found with
  | some f =>
    if goesOn then m.setLastIndex r f.last
    return some f
  | none =>
    if goesOn then m.setLastIndex r 0
    return none

/-- The string of a group of a match. -/
def groupText (s : Utf16) (span : Option (Nat × Nat)) : Value :=
  match span with
  | some (a, b) => .string (s.extract a b)
  | none => .undefined

/-- The object of the named groups of a match; undefined if no group has a name. -/
def namedGroups (e : Regexp) (value : Option (Nat × Nat) → Run Value)
    (groups : Array (Option (Nat × Nat))) : Run Value := do
  if e.names.isEmpty then return .undefined
  let r ← alloc ⟨none, true, .ordinary, .empty⟩
  for (name, i) in e.names do
    put r (.name name) (← value (groups[i - 1]?).join)
  return .object r

/-- The array that tells of a match: its string and those of its groups. -/
def matchArray (e : Regexp) (s : Utf16) (f : Regexp.Found) : Run Value := do
  let texts := (Value.string (s.extract f.first f.last)) :: f.groups.toList.map (groupText s)
  let list ← arrayOf texts
  match list with
  | .object r =>
    put r (.word "index") (.nat f.first)
    put r (.word "input") (.string s)
    put r (.word "groups") (← namedGroups e (fun g => return groupText s g) f.groups)
    if e.flags.indices then
      let span (g : Option (Nat × Nat)) : Run Value := do
        match g with
        | some (a, b) => pair (.nat a) (.nat b)
        | none => return .undefined
      let spans ← (some (f.first, f.last) :: f.groups.toList).mapM span
      let indices ← arrayOf spans
      match indices with
      | .object i => put i (.word "groups") (← namedGroups e span f.groups)
      | _ => pure ()
      put r (.word "indices") indices
  | _ => pure ()
  return list

/-- The position after one code, or one unit. -/
def beyond (e : Regexp) (s : Utf16) (i : Nat) : Nat :=
  if e.flags.unicode then
    match s.codePointAt? i with
    | some (_, width) => i + width
    | none => i + 1
  else i + 1

/-- All matches of an expression from a position on, at most `fuel` of them. -/
def matchesFrom (e : Regexp) (s : Utf16) : (fuel i : Nat) → List Regexp.Found
  | 0, _ => []
  | fuel + 1, i =>
    if s.size < i then []
    else
      match (if e.flags.sticky then Regexp.matchAt? e s i else Regexp.find? e s i) with
      | none => []
      | some f => f :: matchesFrom e s fuel (if f.last == f.first then beyond e s f.last else f.last)

/-- All matches of an expression in a string. -/
def allMatches (e : Regexp) (s : Utf16) : List Regexp.Found := matchesFrom e s (s.size + 2) 0

/-- What stands for a match in a replacement. -/
structure Replaced where
  subject : Utf16
  first : Nat
  last : Nat
  groups : Array (Option (Nat × Nat))
  names : List (Utf16 × Nat)

/-- The text of a group, nothing if it took no part. -/
def Replaced.group (r : Replaced) (i : Nat) : Utf16 :=
  match (r.groups[i - 1]?).join with
  | some (a, b) => r.subject.extract a b
  | none => #[]

/-- The value of a decimal digit. -/
def digitOf? (u : UInt16) : Option Nat := if 48 ≤ u && u ≤ 57 then some (u.toNat - 48) else none

/-- A replacement with its references filled in: the match, what is before and after it, groups by
number or by name. -/
def expand (r : Replaced) : (fuel : Nat) → (acc : Utf16) → List UInt16 → Utf16
  | 0, acc, _ => acc
  | _ + 1, acc, [] => acc
  | fuel + 1, acc, 36 :: c :: rest =>
    if c == 36 then expand r fuel (acc.push 36) rest
    else if c == 38 then expand r fuel (acc ++ r.subject.extract r.first r.last) rest
    else if c == 96 then expand r fuel (acc ++ r.subject.extract 0 r.first) rest
    else if c == 39 then expand r fuel (acc ++ r.subject.extract r.last r.subject.size) rest
    else if c == 60 && !r.names.isEmpty then
      let name := rest.takeWhile (· != 62)
      match rest.drop name.length with
      | [] => expand r fuel ((acc.push 36).push c) rest
      | _ :: after =>
        -- of groups with one name at most one takes part
        let texts := (r.names.filter fun (n, _) => n == name.toArray).map fun (_, i) => r.group i
        expand r fuel (acc ++ texts.foldl (· ++ ·) #[]) after
    else
      match digitOf? c with
      | none => expand r fuel (acc.push 36) (c :: rest)
      | some d =>
        let two := match rest with
          | e :: after =>
            match digitOf? e with
            | some e =>
              let n := 10 * d + e
              if 1 ≤ n && n ≤ r.groups.size then some (n, after) else none
            | none => none
          | [] => none
        match two with
        | some (n, after) => expand r fuel (acc ++ r.group n) after
        | none =>
          if 1 ≤ d && d ≤ r.groups.size then expand r fuel (acc ++ r.group d) rest
          else expand r fuel ((acc.push 36).push c) rest
  | fuel + 1, acc, u :: rest => expand r fuel (acc.push u) rest

/-- What takes the place of a match: a text, or what a function says. -/
inductive Replacement where
  | text (s : Utf16)
  | function (f : Value)

/-- The replacement that a value is. -/
def toReplacement (m : Machine) (v : Value) : Run Replacement := do
  if ← isCallable v then return .function v else return .text (← m.toStr v)

/-- What takes the place of one match. -/
def substitute (m : Machine) (replacement : Replacement) (r : Replaced) (groups : Run Value) :
    Run Utf16 := do
  match replacement with
  | .text t => return expand r (t.size + 1) #[] t.toList
  | .function f =>
    let texts := Value.string (r.subject.extract r.first r.last) ::
      r.groups.toList.map (groupText r.subject)
    let named ← groups
    let more := if named.isUndefined then [] else [named]
    m.toStr (← m.call f .undefined (texts ++ [Value.nat r.first, .string r.subject] ++ more).toArray)

/-- A string with the matches of an expression replaced: all of them if it is global. -/
def replaceIn (m : Machine) (r : Ref) (e : Regexp) (s : Utf16) (replacement : Replacement) :
    Run Value := do
  let found ← if e.flags.global then do
      m.setLastIndex r 0
      pure (allMatches e s)
    else do
      let f ← m.execRegexp r e s
      pure f.toList
  let (out, last) ← found.foldlM (fun (out, last) f => do
    let t ← m.substitute replacement ⟨s, f.first, f.last, f.groups, e.names⟩
      (namedGroups e (fun g => return groupText s g) f.groups)
    return (out ++ s.extract last f.first ++ t, f.last)) ((#[] : Utf16), 0)
  return .string (out ++ s.extract last s.size)

/-- The pieces of a string between the matches of an expression, with the groups of the matches among
them. Matches that take nothing at the end of a piece do not cut. -/
def splitFrom (e : Regexp) (s : Utf16) : (fuel : Nat) → (piece i : Nat) → (acc : List Value) →
    List Value
  | 0, piece, _, acc => (.string (s.extract piece s.size) :: acc).reverse
  | fuel + 1, piece, i, acc =>
    if s.size ≤ i then (.string (s.extract piece s.size) :: acc).reverse
    else
      match Regexp.find? e s i with
      | none => (.string (s.extract piece s.size) :: acc).reverse
      | some f =>
        if s.size ≤ f.first then (.string (s.extract piece s.size) :: acc).reverse
        else if f.last == piece then
          splitFrom e s fuel piece (beyond e s (max i f.first)) acc
        else
          let groups := f.groups.toList.map (groupText s)
          splitFrom e s fuel f.last (if f.last == f.first then beyond e s f.last else f.last)
            (groups.reverse ++ .string (s.extract piece f.first) :: acc)

/-- The pieces of a string between the matches of an expression. -/
def splitBy (e : Regexp) (s : Utf16) : List Value :=
  let e := { e with flags := { e.flags with sticky := false, global := false } }
  if s.isEmpty then
    if (Regexp.matchAt? e s 0).isSome then [] else [.string s]
  else splitFrom e s (2 * s.size + 2) 0 0 []

/-- Reports that a method is for regular expressions. -/
def failNoRegexp {α : Type} : Run α := failType "'this' is not a RegExp object"

/-- The pattern of an expression as it stands in a literal. -/
def literalSource (source : Utf16) : Utf16 :=
  if source.isEmpty then Utf16.ofWord "(?:)"
  else
    let (out, _, _) := source.foldl (fun (out, escaped, inClass) u =>
      if escaped then (out.push u, false, inClass)
      else if u == 92 then (out.push u, true, inClass)
      else if u == 47 && !inClass then ((out.push 92).push u, false, inClass)
      else if u == 10 then ((out.push 92).push 110, false, inClass)
      else (out.push u, false, if u == 91 then true else if u == 93 then false else inClass))
      ((#[] : Utf16), false, false)
    out

/-- The methods of regular expressions. -/
def regexpMethod (m : Machine) (f : RegexpMethod) (self : Value) (args : Array Value) :
    Run Value := do
  match f with
  | .toString =>
    match self with
    | .object _ =>
      let source ← m.toStr (← m.getWord self "source")
      let flags ← m.toStr (← m.getWord self "flags")
      return .string (Utf16.ofWord "/" ++ source ++ Utf16.ofWord "/" ++ flags)
    | _ => failNoRegexp
  | f =>
    match ← regexpOf? self with
    | none => failNoRegexp
    | some (r, _, e) =>
      let s ← m.toStr (argument args 0)
      match f, ← m.execRegexp r e s with
      | .test, found => return .bool found.isSome
      | _, some found => matchArray e s found
      | _, none => return .null

/-- What can be read off a regular expression. -/
def regexpTrait (_m : Machine) (f : RegexpTrait) (self : Value) : Run Value := do
  match ← regexpOf? self with
  | none => if f = .source then return .word "(?:)" else return .undefined
  | some (_, source, e) =>
    match f with
    | .flags => return .text (flagLetters e.flags)
    | .source => return .string (literalSource source)
    | .flag letter => return .bool ((flagLetters e.flags).contains letter)

end Machine

end Extraction.Script
