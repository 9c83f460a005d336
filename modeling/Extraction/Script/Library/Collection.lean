import Extraction.Script.Library.Array

/-!
# Maps and sets

Entries stay in the order in which they came. Two keys are the same if the values are, zeros of
either sign included.

## Main definitions

* `Machine.mapMethod`, `Machine.setMethod`: the methods
* `Machine.newMap`, `Machine.newSet`: maps and sets of given entries
-/

namespace Extraction.Script

namespace Machine

open Run

/-- The entries of a map. -/
def mapEntries (v : Value) : Run (Ref × Array (Option (Value × Value))) := do
  match v with
  | .object r =>
    match (← objectAt r).kind with
    | .map entries => return (r, entries)
    | _ => failType "'this' is not a Map"
  | _ => failType "'this' is not a Map"

/-- The items of a set. -/
def setItems (v : Value) : Run (Ref × Array (Option Value)) := do
  match v with
  | .object r =>
    match (← objectAt r).kind with
    | .set items => return (r, items)
    | _ => failType "'this' is not a Set"
  | _ => failType "'this' is not a Set"

/-- Minus zero as zero. -/
def withoutSign (v : Value) : Value :=
  match v with
  | .number (.float x) => if x == 0.0 then .float 0.0 else v
  | v => v

/-- Gives an object another kind. -/
def setKind (r : Ref) (k : Kind) : Run Unit := modifyObject r fun o => { o with kind := k }

/-- An iterator over values that are there already. -/
def listIterator (vs : List Value) (tag : String) : Run Value := do
  return .object (← newObject Intrinsic.iterator.ref (.listIterator vs.toArray 0 tag))

/-- The methods of maps. -/
def mapMethod (m : Machine) (f : CollectionMethod) (self : Value) (args : Array Value) :
    Run Value := do
  let (r, entries) ← mapEntries self
  let a := withoutSign (argument args 0)
  let here (e : Option (Value × Value)) : Bool := e.any fun (k, _) => sameValue false k a
  let present := entries.toList.filterMap id
  match f with
  | .get => return ((present.find? fun (k, _) => sameValue false k a).map Prod.snd).getD .undefined
  | .has => return .bool (entries.any here)
  | .set | .add =>
    let v := argument args 1
    match entries.findIdx? here with
    | some i => setKind r (.map (entries.set! i (some (a, v))))
    | none => setKind r (.map (entries.push (some (a, v))))
    return self
  | .delete =>
    match entries.findIdx? here with
    | some i =>
      setKind r (.map (entries.set! i none))
      return .bool true
    | none => return .bool false
  | .clear =>
    setKind r (.map #[])
    return .undefined
  | .size => return .nat present.length
  | .keys => listIterator (present.map Prod.fst) "Map Iterator"
  | .values => listIterator (present.map Prod.snd) "Map Iterator"
  | .entries => listIterator (← present.mapM fun (k, v) => pair k v) "Map Iterator"
  | .forEach =>
    if !(← isCallable (argument args 0)) then failType "not a callable function"
    for (k, v) in present do
      let _ ← m.call (argument args 0) (argument args 1) #[v, k, self]
    return .undefined

/-- The methods of sets. -/
def setMethod (m : Machine) (f : CollectionMethod) (self : Value) (args : Array Value) :
    Run Value := do
  let (r, items) ← setItems self
  let a := withoutSign (argument args 0)
  let here (e : Option Value) : Bool := e.any fun v => sameValue false v a
  let present := items.toList.filterMap id
  match f with
  | .has | .get => return .bool (items.any here)
  | .add | .set =>
    if !(items.any here) then setKind r (.set (items.push (some a)))
    return self
  | .delete =>
    match items.findIdx? here with
    | some i =>
      setKind r (.set (items.set! i none))
      return .bool true
    | none => return .bool false
  | .clear =>
    setKind r (.set #[])
    return .undefined
  | .size => return .nat present.length
  | .keys | .values => listIterator present "Set Iterator"
  | .entries => listIterator (← present.mapM fun v => pair v v) "Set Iterator"
  | .forEach =>
    if !(← isCallable (argument args 0)) then failType "not a callable function"
    for v in present do
      let _ ← m.call (argument args 0) (argument args 1) #[v, v, self]
    return .undefined

/-- A map of entries. -/
def newMap (m : Machine) (proto : Ref) (v : Value) : Run Value := do
  let self := Value.object (← newObject proto (.map #[]))
  if !v.isNullish then
    m.forItems v fun entry => do
      match entry with
      | .object _ =>
        let k ← m.get entry (.nat 0)
        let u ← m.get entry (.nat 1)
        let _ ← m.mapMethod .set self #[k, u]
        pure ()
      | _ => failType "cannot get key and value from primitive item of iterable"
  return self

/-- A set of items. -/
def newSet (m : Machine) (proto : Ref) (v : Value) : Run Value := do
  let self := Value.object (← newObject proto (.set #[]))
  if !v.isNullish then
    m.forItems v fun item => do
      let _ ← m.setMethod .add self #[item]
      pure ()
  return self

end Machine

end Extraction.Script
