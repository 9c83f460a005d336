import Extraction.Script.Library.Object

/-!
# Methods of arrays

The methods work on anything with a length and positions. What changes an array as a whole loads
its items, holes among them, and stores them again.

## Main definitions

* `Machine.arrayMethod`: the methods
* `Machine.arrayFunction`, `Machine.makeArray`: the functions of `Array`
* `Machine.sorted`: items in the order of a comparison
-/

namespace Extraction.Script

namespace Machine

open Run

/-- The item at a position; none if there is a hole. -/
def itemAt? (m : Machine) (r : Ref) (i : Nat) : Run (Option Value) := do
  match ← storedItem? r i with
  | some v => return some v
  | none =>
    match ← property? r (.nat i) with
    | some p => return some (← m.valueOf (.object r) (some p))
    | none => return none

/-- Goes through positions from `i` up to `stop`, until a step gives a result. -/
def walkUp {σ α : Type} (stop i : Nat) (s : σ) (step : σ → Nat → Run (σ ⊕ α)) (finish : σ → Run α) :
    Run α :=
  repeated (i, s) fun (i, s) => do
    if i < stop then
      match ← step s i with
      | .inl s => return .inl (i + 1, s)
      | .inr a => return .inr a
    else return .inr (← finish s)

/-- Goes through positions from the one before `i` down to zero, until a step gives a result. -/
def walkDown {σ α : Type} : (i : Nat) → (s : σ) → (step : σ → Nat → Run (σ ⊕ α)) →
    (finish : σ → Run α) → Run α
  | 0, s, _, finish => finish s
  | i + 1, s, step, finish => do
    match ← step s i with
    | .inl s => walkDown i s step finish
    | .inr a => return a

/-- The items of an object, holes among them. -/
def loadItems (m : Machine) (r : Ref) : Run (Array (Option Value)) := do
  let length ← m.lengthOf (.object r)
  walkUp length 0 (#[] : Array (Option Value))
    (fun acc i => do return .inl (acc.push (← m.itemAt? r i))) pure

/-- Whether the items of an array can be exchanged all at once. -/
def isPlainArray (r : Ref) : Run Bool := do
  let o ← objectAt r
  match o.kind with
  | .array .. =>
    return o.extensible && o.table.keys.all fun k => k.position?.isNone && k != .word "length"
  | _ => return false

/-- Makes a list the items of an object. -/
def storeItems (m : Machine) (r : Ref) (items : Array (Option Value)) : Run Unit := do
  if ← isPlainArray r then
    modifyObject r fun o => { o with kind := .array items items.size }
  else
    let old ← m.lengthOf (.object r)
    for (v, i) in items.toList.zipIdx do
      match v with
      | some v => m.set true (.object r) (.nat i) v
      | none =>
        let done ← deleteProperty r (.nat i)
        if !done then failType "cannot delete property"
    for i in List.range (old - items.size) do
      let done ← deleteProperty r (.nat (items.size + i))
      if !done then failType "cannot delete property"
    m.set true (.object r) (.word "length") (.nat items.size)

/-- A function that an argument has to be. -/
def callback (v : Value) : Run Value := do
  if ← isCallable v then return v else failType "not a callable function"

/-- The order of two items for sorting: whether the first has to come before the second. Undefined
comes last; without a comparison, the strings of the items are compared. -/
def sortsBefore (m : Machine) (compare : Value) (a b : Value) : Run Bool := do
  match a, b with
  | .undefined, _ => return false
  | _, .undefined => return true
  | a, b =>
    if compare.isUndefined then
      let s ← m.toStr a
      let t ← m.toStr b
      return Utf16.before s t
    else
      let n ← m.toNumber (← m.call compare .undefined #[a, b])
      return (n.lt? (.int 0)).getD false

/-- Two sorted lists as one; of items in no order those of the first list come first. -/
def merge (before : Value → Value → Run Bool) : (fuel : Nat) → (acc : List Value) →
    List Value → List Value → Run (List Value)
  | 0, acc, xs, ys => return acc.reverse ++ xs ++ ys
  | _ + 1, acc, [], ys => return acc.reverse ++ ys
  | _ + 1, acc, xs, [] => return acc.reverse ++ xs
  | fuel + 1, acc, x :: xs, y :: ys => do
    if ← before y x then merge before fuel (y :: acc) (x :: xs) ys
    else merge before fuel (x :: acc) xs (y :: ys)

/-- Puts an item into a sorted list that is given last item first, behind those that it does not
have to come before. -/
def insertBack (before : Value → Value → Run Bool) (v : Value) : List Value → Run (List Value)
  | [] => return [v]
  | x :: xs => do
    if ← before v x then return x :: (← insertBack before v xs) else return v :: x :: xs

/-- Sorts a list: short ones by insertion, longer ones by halves. -/
def sortList (before : Value → Value → Run Bool) : (fuel : Nat) → List Value → Run (List Value)
  | 0, xs => return xs
  | fuel + 1, xs => do
    if xs.length ≤ 20 then return (← xs.foldlM (fun acc v => insertBack before v acc) []).reverse
    else
      let half := xs.length / 2
      let a ← sortList before fuel (xs.take half)
      let b ← sortList before fuel (xs.drop half)
      merge before (xs.length + 1) [] a b

/-- Items in the order of a comparison. -/
def sorted (m : Machine) (compare : Value) (items : List Value) : Run (List Value) :=
  sortList (m.sortsBefore compare) 64 items

/-- The items with arrays among them taken apart, so many levels deep. -/
def flatten (m : Machine) : (depth : Nat) → (acc : Array Value) → List (Option Value) →
    Run (Array Value)
  | _, acc, [] => return acc
  | depth, acc, none :: rest => flatten m depth acc rest
  | 0, acc, some v :: rest => flatten m 0 (acc.push v) rest
  | depth + 1, acc, some v :: rest => do
    let acc ← match v, ← isArray v with
      | .object r, true => do
        let inner ← m.loadItems r
        flatten m depth acc inner.toList
      | _, _ => pure (acc.push v)
    flatten m (depth + 1) acc rest
termination_by depth _ items => (depth, items.length)

/-- A list without the items from a position on, so many of them, and others put there. -/
def spliced (items : Array (Option Value)) (start count : Nat) (others : Array (Option Value)) :
    Array (Option Value) :=
  items.extract 0 start ++ others ++ items.extract (start + count) items.size

/-- The strings of the items joined; nothing for what is undefined or null. -/
def joinItems (m : Machine) (r : Ref) (separator : Utf16) (text : Value → Run Utf16) : Run Value := do
  if (← MonadState.get).joining.contains r then return .string #[]
  modify fun w => { w with joining := r :: w.joining }
  let leave : Run Unit := modify fun w => { w with joining := w.joining.erase r }
  let result ← attempt do
    let length ← m.lengthOf (.object r)
    walkUp length 0 (#[] : Utf16) (fun acc i => do
      let v ← m.get (.object r) (.nat i)
      let s ← if v.isNullish then pure #[] else text v
      return .inl (if i == 0 then s else acc ++ separator ++ s)) pure
  leave
  match result with
  | .ok s => return .string s
  | .error e => raise e

/-- Where a method that looks for an item begins. -/
def searchStart (m : Machine) (length : Nat) (v : Value) : Run Nat := m.toRelative length 0 v

/-- The first or last position whose item passes a test, and the item. -/
def findItem (m : Machine) (r : Ref) (self : Value) (backward : Bool) (test thisArg : Value) :
    Run (Option (Nat × Value)) := do
  let length ← m.lengthOf (.object r)
  let step : Unit → Nat → Run (Unit ⊕ Option (Nat × Value)) := fun _ i => do
    let v ← m.get (.object r) (.nat i)
    if (← m.call test thisArg #[v, .nat i, self]).truthy then return .inr (some (i, v))
    else return .inl ()
  if backward then walkDown length () step fun _ => return none
  else walkUp length 0 () step fun _ => return none

/-- Folds the items from one end to the other. -/
def fold (m : Machine) (r : Ref) (self : Value) (backward : Bool) (f : Value)
    (start : Option Value) : Run Value := do
  let length ← m.lengthOf (.object r)
  let step : Option Value → Nat → Run (Option Value ⊕ Value) := fun acc i => do
    match ← m.itemAt? r i with
    | none => return .inl acc
    | some v =>
      match acc with
      | none => return .inl (some v)
      | some a => return .inl (some (← m.call f .undefined #[a, v, .nat i, self]))
  let finish : Option Value → Run Value := fun acc => do
    match acc with
    | some v => return v
    | none => failType "cannot call reduce on an empty array with no initial value"
  if backward then walkDown length start step finish else walkUp length 0 start step finish

/-- Runs a function for every item and gathers what comes of it. -/
def forEachItem {σ : Type} (m : Machine) (r : Ref) (self f thisArg : Value) (s : σ)
    (gather : σ → Nat → Value → Value → Run σ) : Run σ := do
  let length ← m.lengthOf (.object r)
  walkUp length 0 s (fun s i => do
    match ← m.itemAt? r i with
    | none => return .inl s
    | some v =>
      let u ← m.call f thisArg #[v, .nat i, self]
      return .inl (← gather s i v u)) pure

/-- Whether an item passes a test: the first answer that is `answer` counts. -/
def anyItem (m : Machine) (r : Ref) (self f thisArg : Value) (answer : Bool) : Run Value := do
  let length ← m.lengthOf (.object r)
  walkUp length 0 () (fun _ i => do
    match ← m.itemAt? r i with
    | none => return .inl ()
    | some v =>
      if (← m.call f thisArg #[v, .nat i, self]).truthy == answer then
        return .inr (Value.bool answer)
      else return .inl ()) fun _ => return .bool !answer

/-- Puts values behind the items. -/
def pushItems (m : Machine) (r : Ref) (values : Array Value) : Run Value := do
  if ← isPlainArray r then
    modifyObject r fun o =>
      match o with
      | ⟨proto, ext, .array items length, table⟩ =>
        if items.size == length then
          ⟨proto, ext, .array (values.foldl (fun acc v => acc.push (some v)) items)
            (length + values.size), table⟩
        else
          values.foldl (fun o v =>
            match o.kind with
            | .array _ length => Object.putItem o length v
            | _ => o) ⟨proto, ext, .array items length, table⟩
      | o => o
    return .nat (← m.lengthOf (.object r))
  else
    let length ← m.lengthOf (.object r)
    for (v, i) in values.toList.zipIdx do
      m.set true (.object r) (.nat (length + i)) v
    m.set true (.object r) (.word "length") (.nat (length + values.size))
    return .nat (length + values.size)

/-- Takes the last item away. -/
def popItem (m : Machine) (r : Ref) : Run Value := do
  let length ← m.lengthOf (.object r)
  if length == 0 then
    m.set true (.object r) (.word "length") (.nat 0)
    return .undefined
  let v ← m.get (.object r) (.nat (length - 1))
  if ← isPlainArray r then
    modifyObject r fun o => Object.setLength o (length - 1)
  else
    let done ← deleteProperty r (.nat (length - 1))
    if !done then failType "cannot delete property"
    m.set true (.object r) (.word "length") (.nat (length - 1))
  return v

/-- The methods of arrays. -/
def arrayMethod (m : Machine) (f : ArrayMethod) (self : Value) (args : Array Value) : Run Value := do
  let r ← toObject self
  let self := Value.object r
  let a := argument args 0
  let b := argument args 1
  match f with
  | .push => m.pushItems r args
  | .pop => m.popItem r
  | .shift =>
    let items ← m.loadItems r
    m.storeItems r (items.extract 1 items.size)
    return ((items[0]?).join).getD .undefined
  | .unshift =>
    let items ← m.loadItems r
    m.storeItems r (args.map some ++ items)
    return .nat (items.size + args.size)
  | .splice | .toSpliced =>
    let items ← m.loadItems r
    let start ← m.toRelative items.size 0 a
    let count ← if args.size == 0 then pure 0
      else if args.size == 1 then pure (items.size - start)
      else do
        let n ← m.toClamped 0 (items.size - start : Nat) b
        pure n.toNat
    let others := (args.extract 2 args.size).map some
    if f == .toSpliced then
      newArray ((spliced items start count others).map fun v => v.getD .undefined)
    else
      let removed := items.extract start (start + count)
      let result ← newObject Intrinsic.array.ref (.array removed removed.size)
      m.storeItems r (spliced items start count others)
      return .object result
  | .slice =>
    let length ← m.lengthOf self
    let start ← m.toRelative length 0 a
    let stop ← m.toRelative length length b
    let items ← walkUp stop start (#[] : Array (Option Value))
      (fun acc i => do return .inl (acc.push (← m.itemAt? r i))) pure
    return .object (← newObject Intrinsic.array.ref (.array items items.size))
  | .concat =>
    let mut items : Array (Option Value) := #[]
    for v in self :: args.toList do
      match v, ← isArray v with
      | .object o, true =>
        let more ← m.loadItems o
        items := items ++ more
      | _, _ => items := items.push (some v)
    return .object (← newObject Intrinsic.array.ref (.array items items.size))
  | .join =>
    let separator ← if a.isUndefined then pure (Utf16.ofWord ",") else m.toStr a
    m.joinItems r separator m.toStr
  | .toString =>
    let join ← m.getWord self "join"
    if ← isCallable join then m.call join self #[] else m.objectMethod .toString self #[]
  | .toLocaleString =>
    m.joinItems r (Utf16.ofWord ",") fun v => do
      m.toStr (← m.invoke v (.word "toLocaleString") #[])
  | .reverse =>
    let items ← m.loadItems r
    m.storeItems r items.reverse
    return self
  | .toReversed => newArray ((← m.listOf self).reverse)
  | .sort =>
    if !a.isUndefined then
      if !(← isCallable a) then failType "the comparison function must be either a function or undefined"
    let items ← m.loadItems r
    let present := items.toList.filterMap id
    let order ← m.sorted a present
    let holes := items.size - present.length
    m.storeItems r ((order.map some).toArray ++ Array.replicate holes none)
    return self
  | .toSorted =>
    if !a.isUndefined then
      if !(← isCallable a) then failType "the comparison function must be either a function or undefined"
    arrayOf (← m.sorted a (← m.listOf self).toList)
  | .indexOf =>
    let length ← m.lengthOf self
    let start ← m.searchStart length b
    walkUp length start () (fun _ i => do
      match ← m.itemAt? r i with
      | some v => return if strictEquals v a then .inr (Value.nat i) else .inl ()
      | none => return .inl ()) fun _ => return .number (.int (-1))
  | .lastIndexOf =>
    let length ← m.lengthOf self
    let start ← if args.size < 2 then pure length
      else do
        let n ← m.toClamped (-(length : Int) - 1) length b
        pure (if n < 0 then ((length : Int) + n + 1).toNat else min (n.toNat + 1) length)
    walkDown start () (fun _ i => do
      match ← m.itemAt? r i with
      | some v => return if strictEquals v a then .inr (Value.nat i) else .inl ()
      | none => return .inl ()) fun _ => return .number (.int (-1))
  | .includes =>
    let length ← m.lengthOf self
    let start ← m.searchStart length b
    walkUp length start () (fun _ i => do
      let v ← m.get self (.nat i)
      return if sameValue false v a then .inr (Value.bool true) else .inl ())
      fun _ => return .bool false
  | .at =>
    let length ← m.lengthOf self
    let x ← m.toWhole a
    if x.isInf then return .undefined
    let n := Number.truncate x
    let i := if n < 0 then (length : Int) + n else n
    if i < 0 || (length : Int) ≤ i then return .undefined
    m.get self (.nat i.toNat)
  | .withItem =>
    let items ← m.listOf self
    let x ← m.toWhole a
    let n := if x.isInf then (items.size : Int) else Number.truncate x
    let i := if n < 0 then (items.size : Int) + n else n
    if i < 0 || (items.size : Int) ≤ i then fail .range "invalid integer index for TypedArray operation".toList
    newArray (items.set! i.toNat b)
  | .fill =>
    let length ← m.lengthOf self
    let start ← m.toRelative length 0 b
    let stop ← m.toRelative length length (argument args 2)
    walkUp stop start () (fun _ i => do
      m.set true self (.nat i) a
      return .inl ()) fun _ => return self
  | .copyWithin =>
    let items ← m.loadItems r
    let target ← m.toRelative items.size 0 a
    let start ← m.toRelative items.size 0 b
    let stop ← m.toRelative items.size items.size (argument args 2)
    let count := min (stop - start) (items.size - target)
    m.storeItems r (items.mapIdx fun i v =>
      if target ≤ i && i < target + count then (items[start + (i - target)]?).join else v)
    return self
  | .forEach =>
    let f ← callback a
    m.forEachItem r self f b () fun _ _ _ _ => pure ()
    return .undefined
  | .map =>
    let f ← callback a
    let length ← m.lengthOf self
    let items ← m.forEachItem r self f b (Array.replicate length (none : Option Value))
      fun acc i _ u => return acc.set! i (some u)
    return .object (← newObject Intrinsic.array.ref (.array items items.size))
  | .filter =>
    let f ← callback a
    newArray (← m.forEachItem r self f b (#[] : Array Value) fun acc _ v u =>
      return if u.truthy then acc.push v else acc)
  | .flatMap =>
    let f ← callback a
    let items ← m.forEachItem r self f b (#[] : Array (Option Value)) fun acc _ _ u =>
      return acc.push (some u)
    newArray (← m.flatten 1 #[] items.toList)
  | .flat =>
    let depth ← if a.isUndefined then pure 1 else m.toClamped 0 10000 a
    let items ← m.loadItems r
    newArray (← m.flatten depth.toNat #[] items.toList)
  | .every => m.anyItem r self (← callback a) b false
  | .some => m.anyItem r self (← callback a) b true
  | .find => return ((← m.findItem r self false (← callback a) b).map Prod.snd).getD .undefined
  | .findLast => return ((← m.findItem r self true (← callback a) b).map Prod.snd).getD .undefined
  | .findIndex =>
    match ← m.findItem r self false (← callback a) b with
    | some (i, _) => return .nat i
    | none => return .number (.int (-1))
  | .findLastIndex =>
    match ← m.findItem r self true (← callback a) b with
    | some (i, _) => return .nat i
    | none => return .number (.int (-1))
  | .reduce => m.fold r self false (← callback a) (if args.size < 2 then none else some b)
  | .reduceRight => m.fold r self true (← callback a) (if args.size < 2 then none else some b)
  | .keys =>
    return .object (← newObject Intrinsic.iterator.ref (.arrayIterator self 0 true false))
  | .values =>
    return .object (← newObject Intrinsic.iterator.ref (.arrayIterator self 0 false true))
  | .entries =>
    return .object (← newObject Intrinsic.iterator.ref (.arrayIterator self 0 true true))

/-- Makes an array of arguments: one number alone is a length. -/
def makeArray (args : Array Value) : Run Value := do
  match args.toList with
  | [.number n] =>
    match Machine.lengthOf? (.number n) with
    | some length => return .object (← newObject Intrinsic.array.ref (.array #[] length))
    | none => fail .range "invalid array length".toList
  | _ => newArray args

/-- The functions of `Array`. -/
def arrayFunction (m : Machine) (f : ArrayFunction) (args : Array Value) : Run Value := do
  let a := argument args 0
  let b := argument args 1
  match f with
  | .isArray => return .bool (← isArray a)
  | .of => newArray args
  | .copy =>
    if !b.isUndefined then
      if !(← isCallable b) then failType "mapfn is not callable"
    if a.isNullish then failNullish
    let items ← match ← m.method? a WellKnown.iterator.key with
      | some _ => m.itemsOf a
      | none => m.listOf (.object (← toObject a))
    if b.isUndefined then newArray items
    else
      let mapped ← items.toList.zipIdx.mapM fun (v, i) => m.call b (argument args 2) #[v, .nat i]
      arrayOf mapped

/-- What an iterator gives: a value and whether there is none. -/
def iteratorResult (v : Option Value) : Run Value := do
  let r ← newPlain
  put r (.word "value") (v.getD .undefined)
  put r (.word "done") (.bool v.isNone)
  return .object r

/-- The next value of an iterator. -/
def iteratorNext (m : Machine) (self : Value) : Run Value := do
  match self with
  | .object r =>
    match (← objectAt r).kind with
    | .arrayIterator target next keys values =>
      let length ← m.lengthOf target
      if next < length then
        modifyObject r fun o => { o with kind := .arrayIterator target (next + 1) keys values }
        let v ← if values then m.get target (.nat next) else pure .undefined
        if keys && values then iteratorResult (some (← pair (.nat next) v))
        else if keys then iteratorResult (some (.nat next))
        else iteratorResult (some v)
      else
        -- an iterator that has come to an end stays there
        modifyObject r fun o => { o with kind := .listIterator #[] 0 "Array Iterator" }
        iteratorResult none
    | .listIterator list next tag =>
      match list[next]? with
      | some v =>
        modifyObject r fun o => { o with kind := .listIterator list (next + 1) tag }
        iteratorResult (some v)
      | none => iteratorResult none
    | _ => failType "not an iterator"
  | _ => failType "not an iterator"

end Machine

end Extraction.Script
