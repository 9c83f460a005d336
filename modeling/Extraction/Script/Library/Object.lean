import Extraction.Script.Iterate

/-!
# Functions on objects

Properties are listed, copied and described; objects are closed against changes.

## Main definitions

* `Machine.objectFunction`: the functions of `Object`
* `Machine.objectMethod`: the methods that all objects have
* `Machine.functionMethod`: the methods that functions have
-/

namespace Extraction.Script

/-- What a description says of a property. -/
structure Description where
  value : Option Value
  writable : Option Bool
  getter : Option (Option Ref)
  setter : Option (Option Ref)
  enumerable : Option Bool
  configurable : Option Bool

namespace Machine

open Run

/-- A new plain object. -/
def newPlain : Run Ref := newObject Intrinsic.object.ref .ordinary

/-- The array of a list of values. -/
def arrayOf (vs : List Value) : Run Value := newArray vs.toArray

/-- The member of an object under a fixed word, if it has one. -/
def memberIf (m : Machine) (r : Ref) (w : String) : Run (Option Value) := do
  match ← property? r (.word w) with
  | some p => return some (← m.valueOf (.object r) (some p))
  | none => return none

/-- The description that an object is. -/
def toDescription (m : Machine) (v : Value) : Run Description := do
  match v with
  | .object r =>
    let flag (w : String) : Run (Option Bool) := do return (← m.memberIf r w).map Value.truthy
    let function (w : String) : Run (Option (Option Ref)) := do
      match ← m.memberIf r w with
      | none => return none
      | some .undefined => return some none
      | some f =>
        match f, ← isCallable f with
        | .object g, true => return some (some g)
        | _, _ => failType "accessor must be callable"
    let enumerable ← flag "enumerable"
    let configurable ← flag "configurable"
    let value ← m.memberIf r "value"
    let writable ← flag "writable"
    let getter ← function "get"
    let setter ← function "set"
    if (getter.isSome || setter.isSome) && (value.isSome || writable.isSome) then
      failType "invalid property descriptor, both accessor and data keys present"
    return ⟨value, writable, getter, setter, enumerable, configurable⟩
  | _ => failType "property descriptor is not an object"

/-- Whether a property that is to stay as it is agrees with a description. -/
def agrees (p : Property) (d : Description) : Bool :=
  d.configurable != some true && (d.enumerable.getD p.enumerable == p.enumerable) &&
    match p.content with
    | .data v writable =>
      d.getter.isNone && d.setter.isNone &&
        (writable || (d.writable != some true && (d.value.all fun u => sameValue true u v)))
    | .accessor g s =>
      d.value.isNone && d.writable.isNone && (d.getter.all fun x => x == g) &&
        (d.setter.all fun x => x == s)

/-- Defines a property as a description says; false if that cannot be. -/
def define (m : Machine) (r : Ref) (k : PropertyKey) (d : Description) : Run Bool := do
  let old ← ownProperty? r k
  let array ← isArray (.object r)
  if array && k = .word "length" then
    match d.value with
    | some v =>
      let n ← m.toClamped 0 4294967295 v
      modifyObject r fun o => Object.setLength o n.toNat
    | none => pure ()
    match d.writable, old with
    | some false, some p =>
      match p.content with
      | .data v _ =>
        modifyObject r fun o => { o with table := o.table.insert k (.constant v) }
      | _ => pure ()
    | _, _ => pure ()
    return true
  match old with
  | none =>
    if !(← objectAt r).extensible then return false
    let content := match d.getter, d.setter with
      | none, none => Content.data (d.value.getD .undefined) (d.writable.getD false)
      | g, s => .accessor (g.getD none) (s.getD none)
    defineProperty r k ⟨content, d.enumerable.getD false, d.configurable.getD false⟩
    return true
  | some p =>
    if !p.configurable && !agrees p d then return false
    let content := match d.getter, d.setter, p.content with
      | none, none, .data v w => Content.data (d.value.getD v) (d.writable.getD w)
      | none, none, .accessor g s =>
        if d.value.isSome || d.writable.isSome then
          .data (d.value.getD .undefined) (d.writable.getD false)
        else .accessor g s
      | g, s, .accessor g0 s0 => .accessor (g.getD g0) (s.getD s0)
      | g, s, .data .. => .accessor (g.getD none) (s.getD none)
    defineProperty r k
      ⟨content, d.enumerable.getD p.enumerable, d.configurable.getD p.configurable⟩
    return true

/-- Defines a property as an object describes it. -/
def defineAs (m : Machine) (r : Ref) (k : PropertyKey) (v : Value) : Run Unit := do
  if !(← m.define r k (← m.toDescription v)) then failType "cannot redefine property"

/-- Defines the properties that the members of an object describe. -/
def defineAll (m : Machine) (r : Ref) (v : Value) : Run Unit := do
  let source ← toObject v
  for k in ← ownKeys source do
    match ← ownProperty? source k with
    | some p => if p.enumerable then m.defineAs r k (← m.valueOf (.object source) (some p))
    | none => pure ()

/-- The object that describes a property. -/
def describe (p : Property) : Run Value := do
  let r ← newPlain
  let orUndefined (f : Option Ref) : Value := (f.map Value.object).getD .undefined
  match p.content with
  | .data v writable =>
    put r (.word "value") v
    put r (.word "writable") (.bool writable)
  | .accessor g s =>
    put r (.word "get") (orUndefined g)
    put r (.word "set") (orUndefined s)
  put r (.word "enumerable") (.bool p.enumerable)
  put r (.word "configurable") (.bool p.configurable)
  return .object r

/-- Closes an object: nothing is added or taken away any more, nor changed if `frozen`. -/
def close (r : Ref) (frozen : Bool) : Run Unit :=
  modifyObject r fun o =>
    let fix (p : Property) : Property :=
      let content := match p.content with
        | .data v w => Content.data v (w && !frozen)
        | c => c
      { p with configurable := false, content := content }
    match o.kind with
    | .array items length =>
      -- the items leave the row, where all can be changed
      let rows := items.toList.zipIdx.filterMap fun (v, i) => v.map fun v => (PropertyKey.nat i, v)
      let table := rows.foldl (fun t (k, v) => t.insert k (.plain v)) o.table
      let table :=
        if frozen then table.insert (.word "length") ⟨.data (.nat length) true, false, false⟩
        else table
      { o with extensible := false, kind := .array #[] length, table := table.map fix }
    | _ => { o with extensible := false, table := o.table.map fix }

/-- Whether an object is closed; `frozen` asks that nothing can be changed either. -/
def isClosed (r : Ref) (frozen : Bool) : Run Bool := do
  if (← objectAt r).extensible then return false
  for k in ← ownKeys r do
    match ← ownProperty? r k with
    | some p =>
      if p.configurable then return false
      if frozen then
        match p.content with
        | .data _ true => return false
        | _ => pure ()
    | none => pure ()
  return true

/-- The parent of an object as a value. -/
def parentOf (r : Ref) : Run Value := do
  match (← objectAt r).proto with
  | some p => return .object p
  | none => return .null

/-- Gives an object another parent. -/
def setParent (r : Ref) (v : Value) : Run Unit := do
  match v with
  | .object p =>
    let circular ← if p == r then pure true else hasParent r ((← MonadState.get).objects.size + 1) p
    if circular then failType "cyclic object value"
    modifyObject r fun o => { o with proto := some p }
  | .null => modifyObject r fun o => { o with proto := none }
  | _ => pure ()

/-- A pair as an array. -/
def pair (a b : Value) : Run Value := newArray #[a, b]

/-- The functions of `Object`. -/
def objectFunction (m : Machine) (f : ObjectFunction) (args : Array Value) : Run Value := do
  let a := argument args 0
  let b := argument args 1
  match f with
  | .keys => arrayOf ((← ownNames (← toObject a)).map Value.string)
  | .values =>
    let r ← toObject a
    arrayOf (← (← ownNames r).mapM fun n => m.get (.object r) (.name n))
  | .entries =>
    let r ← toObject a
    arrayOf (← (← ownNames r).mapM fun n => do pair (.string n) (← m.get (.object r) (.name n)))
  | .assign =>
    let target ← toObject a
    for source in args.toList.drop 1 do
      if !source.isNullish then
        let r ← toObject source
        for k in ← ownKeys r do
          match ← ownProperty? r k with
          | some p =>
            if p.enumerable then
              m.set true (.object target) k (← m.valueOf (.object r) (some p))
          | none => pure ()
    return .object target
  | .create =>
    let proto ← match a with
      | .object p => pure (some p)
      | .null => pure none
      | _ => failType "Object prototype may only be an Object or null"
    let r ← alloc ⟨proto, true, .ordinary, .empty⟩
    if !b.isUndefined then m.defineAll r b
    return .object r
  | .defineProperty =>
    match a with
    | .object r =>
      let k ← m.toKey b
      m.defineAs r k (argument args 2)
      return a
    | _ => failType "Object.defineProperty called on non-object"
  | .defineProperties =>
    match a with
    | .object r =>
      m.defineAll r b
      return a
    | _ => failType "Expected an object"
  | .freeze | .seal =>
    match a with
    | .object r =>
      close r (f == .freeze)
      return a
    | v => return v
  | .preventExtensions =>
    match a with
    | .object r =>
      modifyObject r fun o => { o with extensible := false }
      return a
    | v => return v
  | .isFrozen | .isSealed =>
    match a with
    | .object r => return .bool (← isClosed r (f == .isFrozen))
    | _ => return .bool true
  | .isExtensible =>
    match a with
    | .object r => return .bool (← objectAt r).extensible
    | _ => return .bool false
  | .fromEntries =>
    if a.isNullish then failType "cannot convert null or undefined to Object"
    let r ← newPlain
    m.forItems a fun entry => do
      match entry with
      | .object _ =>
        let k ← m.get entry (.nat 0)
        let v ← m.get entry (.nat 1)
        put r (← m.toKey k) v
      | _ => failType "cannot get key and value from primitive item"
    return .object r
  | .getOwnPropertyDescriptor =>
    let r ← toObject a
    match ← ownProperty? r (← m.toKey b) with
    | some p => describe p
    | none => return .undefined
  | .getOwnPropertyDescriptors =>
    let r ← toObject a
    let result ← newPlain
    for k in ← ownKeys r do
      match ← ownProperty? r k with
      | some p => put result k (← describe p)
      | none => pure ()
    return .object result
  | .getOwnPropertyNames =>
    let keys ← ownKeys (← toObject a)
    arrayOf (keys.filterMap fun k => match k with
      | .name s => some (Value.string s)
      | .symbol _ => none)
  | .getOwnPropertySymbols =>
    let keys ← ownKeys (← toObject a)
    arrayOf (keys.filterMap fun k => match k with
      | .name _ => none
      | .symbol id => some (Value.symbol id))
  | .getPrototypeOf => parentOf (← toObject a)
  | .setPrototypeOf =>
    if a.isNullish then failNullish
    match a, b with
    | .object r, v =>
      match v with
      | .object _ | .null => setParent r v
      | _ => failType "expected an object or null"
      return a
    | v, _ => return v
  | .groupBy =>
    let r ← alloc ⟨none, true, .ordinary, .empty⟩
    let items ← m.itemsOf a
    for (v, i) in items.toList.zipIdx do
      let k ← m.toKey (← m.call b .undefined #[v, .nat i])
      match ← ownProperty? r k with
      | some ⟨.data list _, _, _⟩ =>
        let n ← m.lengthOf list
        m.set true list (.nat n) v
      | _ => put r k (← newArray #[v])
    return .object r
  | .hasOwn =>
    let r ← toObject a
    return .bool (← ownProperty? r (← m.toKey b)).isSome
  | .is => return .bool (sameValue true a b)

/-- The word that the usual text of an object has for it. -/
def tagOf (r : Ref) : Run String := do
  match (← objectAt r).kind with
  | .array .. => return "Array"
  | .closure _ | .builtin _ | .bound .. => return "Function"
  | .error _ => return "Error"
  | .regexp .. => return "RegExp"
  | .arguments => return "Arguments"
  | .wrapper (.bool _) => return "Boolean"
  | .wrapper (.number _) => return "Number"
  | .wrapper (.string _) => return "String"
  | _ => return "Object"

/-- The methods that all objects have. -/
def objectMethod (m : Machine) (f : ObjectMethod) (self : Value) (args : Array Value) :
    Run Value := do
  let a := argument args 0
  match f with
  | .hasOwnProperty =>
    let k ← m.toKey a
    return .bool (← ownProperty? (← toObject self) k).isSome
  | .isPrototypeOf =>
    match a with
    | .object o =>
      let r ← toObject self
      return .bool (← hasParent r ((← MonadState.get).objects.size + 1) o)
    | _ => return .bool false
  | .propertyIsEnumerable =>
    let k ← m.toKey a
    match ← ownProperty? (← toObject self) k with
    | some p => return .bool p.enumerable
    | none => return .bool false
  | .toLocaleString => m.invoke self (.word "toString") #[]
  | .toString =>
    match self with
    | .undefined => return .word "[object Undefined]"
    | .null => return .word "[object Null]"
    | v =>
      let r ← toObject v
      let usual ← tagOf r
      match ← m.getFor r WellKnown.toStringTag.key v with
      | .string tag => return .string (Utf16.ofWord "[object " ++ tag ++ Utf16.ofWord "]")
      | _ => return .word ("[object " ++ usual ++ "]")
  | .valueOf => return .object (← toObject self)
  | .getProto => parentOf (← toObject self)
  | .setProto =>
    match self with
    | .object r =>
      setParent r a
      return .undefined
    | v =>
      if v.isNullish then failNullish
      return .undefined

/-- The methods that functions have. -/
def functionMethod (m : Machine) (f : FunctionMethod) (self : Value) (args : Array Value) :
    Run Value := do
  match f with
  | .nothing => return .undefined
  | .hasInstance => return .bool (← m.ordinaryInstance 1000 self (argument args 0))
  | f =>
    if !(← isCallable self) then failType "not a function"
    match f with
    | .call => m.call self (argument args 0) (args.extract 1 args.size)
    | .apply =>
      let list := argument args 1
      let items ← match list with
        | .object _ => m.listOf list
        | v => if v.isNullish then pure #[] else failType "cannot create list from non-object"
      m.call self (argument args 0) items
    | .bind =>
      match self with
      | .object target =>
        let bound := args.extract 1 args.size
        let name ← match ← m.getWord self "name" with
          | .string s => pure s
          | _ => pure #[]
        let arity ← m.toClamped 0 4294967295 (← m.getWord self "length")
        let table := (PropertyTable.empty.insert (.word "length")
            (.readOnly (.nat (arity.toNat - bound.size)))).insert (.word "name")
          (.readOnly (.string (Utf16.ofWord "bound " ++ name)))
        let r ← alloc ⟨(← objectAt target).proto, true, .bound target (argument args 0) bound, table⟩
        return .object r
      | _ => failType "not a function"
    | _ =>
      let name ← match ← m.getWord self "name" with
        | .string s => pure s
        | _ => pure #[]
      return .string
        (Utf16.ofWord "function " ++ name ++ Utf16.ofWord "() \x7b [native code] \x7d")

end Machine

end Extraction.Script
