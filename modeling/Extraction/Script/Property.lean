import Extraction.Script.Machine

/-!
# Properties of objects

An object answers for a key itself, or its parent does, and so on. Arrays keep their items in a row
as long as they are plain properties, and know their length; strings answer for the positions of
their units.

## Main definitions

* `Run.ownProperty?`, `Run.property?`: the property of an object itself, or of a parent as well
* `Machine.get`, `Machine.set`: reading and writing, getters and setters called
* `Run.defineProperty`, `Run.deleteProperty`, `Run.ownKeys`
-/

namespace Extraction.Script

namespace Object

/-- How far beyond the stored items an item may be put for the row to be filled up. -/
def widestGap : Nat := 100000

/-- An array with a value put at a position, in the row if that is near, under its key if not. -/
def putItem (o : Object) (i : Nat) (v : Value) : Object :=
  match o with
  | ⟨proto, ext, .array items length, table⟩ =>
    let length := max length (i + 1)
    if i < items.size then ⟨proto, ext, .array (items.set! i (some v)) length, table⟩
    else if i == items.size then ⟨proto, ext, .array (items.push (some v)) length, table⟩
    else if i < items.size + widestGap then
      ⟨proto, ext, .array ((items ++ Array.replicate (i - items.size) none).push (some v)) length,
        table⟩
    else ⟨proto, ext, .array items length, table.insert (.nat i) (.plain v)⟩
  | o => o

/-- An array cut or lengthened to a length. -/
def setLength (o : Object) (n : Nat) : Object :=
  match o with
  | ⟨proto, ext, .array items length, table⟩ =>
    let table :=
      if n < length then
        table.keys.foldl (fun t k => if k.position?.any (fun i => n ≤ i) then t.erase k else t) table
      else table
    ⟨proto, ext, .array (items.extract 0 n) n, table⟩
  | o => o

end Object

namespace Run

/-- The string of one unit at a position. -/
def unitAt? (s : Utf16) (i : Nat) : Option Value := s[i]?.map fun u => .string #[u]

/-- The property of an object itself. -/
def ownProperty? (r : Ref) (k : PropertyKey) : Run (Option Property) := do
  let o ← objectAt r
  match o.kind with
  | .array items length =>
    match k.position? with
    | some i =>
      match (items[i]?).join with
      | some v => return some (.plain v)
      | none => return o.table.find? k
    | none =>
      match o.table.find? k with
      | some p => return some p
      | none =>
        if k = .word "length" then return some ⟨.data (.nat length) true, false, false⟩
        else return none
  | .wrapper (.string s) =>
    match k.position?.bind (unitAt? s) with
    | some v => return some ⟨.data v false, true, false⟩
    | none =>
      if k = .word "length" then return some (.constant (.nat s.size))
      else return o.table.find? k
  | _ => return o.table.find? k

/-- The property of an object or of the first parent that has one, among `fuel` objects. -/
def propertyAmong? (k : PropertyKey) : (fuel : Nat) → Ref → Run (Option Property)
  | 0, _ => return none
  | fuel + 1, r => do
    match ← ownProperty? r k with
    | some p => return some p
    | none =>
      match (← objectAt r).proto with
      | some parent => propertyAmong? k fuel parent
      | none => return none

/-- The property of an object or of the first parent that has one. -/
def property? (r : Ref) (k : PropertyKey) : Run (Option Property) := do
  propertyAmong? k ((← get).objects.size + 1) r

/-- Puts a property under a key of an object itself, whatever was there. -/
def defineProperty (r : Ref) (k : PropertyKey) (p : Property) : Run Unit :=
  modifyObject r fun o =>
    match o.kind with
    | .array items length =>
      match k.position? with
      | some i =>
        let known := (o.table.find? k).isSome
        match p with
        | ⟨.data v true, true, true⟩ =>
          if known then { o with table := o.table.insert k p } else Object.putItem o i v
        | p =>
          -- an item with traits of its own leaves the row
          { o with
            kind := .array (if i < items.size then items.set! i none else items) (max length (i + 1))
            table := o.table.insert k p }
      | none => { o with table := o.table.insert k p }
    | _ => { o with table := o.table.insert k p }

/-- Puts a plain property under a key. -/
def put (r : Ref) (k : PropertyKey) (v : Value) : Run Unit := defineProperty r k (.plain v)

/-- Takes away the property under a key; false if it has to stay. -/
def deleteProperty (r : Ref) (k : PropertyKey) : Run Bool := do
  match ← ownProperty? r k with
  | none => return true
  | some p =>
    if !p.configurable then return false
    modifyObject r fun o =>
      match o with
      | ⟨proto, ext, .array items length, table⟩ =>
        match k.position? with
        | some i =>
          ⟨proto, ext, .array (if i < items.size then items.set! i none else items) length,
            table.erase k⟩
        | none => ⟨proto, ext, .array items length, table.erase k⟩
      | ⟨proto, ext, kind, table⟩ => ⟨proto, ext, kind, table.erase k⟩
    return true

/-- The keys of an object itself: positions in increasing order, names and then symbols in the order
in which they came. -/
def ownKeys (r : Ref) : Run (List PropertyKey) := do
  let o ← objectAt r
  let (stored, first) : List Nat × List PropertyKey := match o.kind with
    | .array items _ =>
      ((List.range items.size).filter fun i => ((items[i]?).join).isSome,
        if (o.table.find? (.word "length")).isSome then [] else [.word "length"])
    | .wrapper (.string s) => (List.range s.size, [.word "length"])
    | _ => ([], [])
  let keys := o.table.keys
  let positions := (stored ++ keys.filterMap PropertyKey.position?).mergeSort fun a b => a ≤ b
  let names := keys.filter fun k => match k with
    | .name s => (PropertyKey.positionOf? s).isNone
    | .symbol _ => false
  let symbols := keys.filter fun k => match k with
    | .name _ => false
    | .symbol _ => true
  return positions.map PropertyKey.nat ++ first ++ names ++ symbols

/-- The keys of an object itself that loops over keys show. -/
def ownNames (r : Ref) : Run (List Name) := do
  let keys ← ownKeys r
  keys.filterMapM fun k => do
    match k with
    | .name s =>
      match ← ownProperty? r k with
      | some p => return if p.enumerable then some s else none
      | none => return none
    | .symbol _ => return none

/-- Whether an object can be called. -/
def isCallable (v : Value) : Run Bool := do
  match v with
  | .object r =>
    match (← objectAt r).kind with
    | .closure _ | .builtin _ | .bound .. => return true
    | _ => return false
  | _ => return false

/-- Whether a value is an array. -/
def isArray (v : Value) : Run Bool := do
  match v with
  | .object r =>
    match (← objectAt r).kind with
    | .array .. => return true
    | _ => return false
  | _ => return false

/-- Reports that there is nothing to take a property of. -/
def failNullish {α : Type} : Run α := failType "cannot convert 'null' or 'undefined' to object"

/-- The object whose properties a plain value has. -/
def homeOf (v : Value) : Run Ref := do
  match v with
  | .object r => return r
  | .string _ => return Intrinsic.string.ref
  | .number _ => return Intrinsic.number.ref
  | .bool _ => return Intrinsic.boolean.ref
  | .symbol _ => return Intrinsic.symbol.ref
  | .bigint _ => return Intrinsic.bigint.ref
  | .undefined | .null => failNullish

/-- The object of a value: a plain one is wrapped. -/
def toObject (v : Value) : Run Ref := do
  match v with
  | .object r => return r
  | v =>
    let home ← homeOf v
    newObject home (.wrapper v)

end Run

namespace Machine

open Run

/-- What a property gives to whoever asks for it. -/
def valueOf (m : Machine) (self : Value) (p : Option Property) : Run Value := do
  match p with
  | some ⟨.data v _, _, _⟩ => return v
  | some ⟨.accessor (some g) _, _, _⟩ => m.call (.object g) self #[]
  | _ => return .undefined

/-- The value under a key of an object, read on behalf of a value. -/
def getFor (m : Machine) (r : Ref) (k : PropertyKey) (self : Value) : Run Value := do
  m.valueOf self (← property? r k)

/-- The value under a key. -/
def get (m : Machine) (v : Value) (k : PropertyKey) : Run Value := do
  match v with
  | .string s =>
    match k.position?.bind (unitAt? s) with
    | some u => return u
    | none =>
      if k = .word "length" then return .nat s.size
      else m.getFor Intrinsic.string.ref k v
  | v => m.getFor (← homeOf v) k v

/-- The value under a fixed word. -/
def getWord (m : Machine) (v : Value) (w : String) : Run Value := m.get v (.word w)

/-- The method under a key, if there is one. -/
def method? (m : Machine) (v : Value) (k : PropertyKey) : Run (Option Value) := do
  let f ← m.get v k
  if f.isNullish then return none
  if ← isCallable f then return some f
  failType "value returned for property of object is not a function"

/-- A number as the length of an array. -/
def lengthOf? (v : Value) : Option Nat :=
  match v with
  | .number (.int n) => if 0 ≤ n then some n.toNat else none
  | .number (.float x) =>
    if Number.isFinite x && 0.0 ≤ x && x < 4294967296.0 && x == x.floor then
      some (Number.truncate x).toNat
    else none
  | _ => none

/-- Writes a value under a key of an object itself, where a plain property is or may be made. -/
def writeOwn (r : Ref) (k : PropertyKey) (old : Option Property) (v : Value) : Run Bool := do
  let o ← objectAt r
  match old with
  | some p =>
    match o.kind with
    | .array .. =>
      if k = .word "length" then
        match lengthOf? v with
        | some n =>
          modifyObject r fun o => Object.setLength o n
          return true
        | none => fail .range "invalid array length".toList
      else
        defineProperty r k { p with content := .data v true }
        return true
    | _ =>
      defineProperty r k { p with content := .data v true }
      return true
  | none =>
    if o.extensible then
      put r k v
      return true
    else return false

/-- Writes a value under a key of an object, on its own behalf; false if that cannot be. -/
def setOn (m : Machine) (r : Ref) (k : PropertyKey) (v self : Value) : Run Bool := do
  let own ← ownProperty? r k
  let found ← match own with
    | some p => pure (some p)
    | none =>
      match (← objectAt r).proto with
      | some parent => property? parent k
      | none => pure none
  match found with
  | some ⟨.accessor _ (some f), _, _⟩ =>
    let _ ← m.call (.object f) self #[v]
    return true
  | some ⟨.accessor _ none, _, _⟩ => return false
  | some ⟨.data _ false, _, _⟩ => return false
  | _ => writeOwn r k own v

/-- Writes a value under a key. What cannot be written is passed over, or reported if `strict`. -/
def set (m : Machine) (strict : Bool) (target : Value) (k : PropertyKey) (v : Value) : Run Unit := do
  match target with
  | .object r =>
    let done ← m.setOn r k v target
    if !done && strict then failType "cannot set non-writable property"
  | .undefined | .null => failNullish
  | target =>
    match ← property? (← homeOf target) k with
    | some ⟨.accessor _ (some f), _, _⟩ =>
      let _ ← m.call (.object f) target #[v]
      pure ()
    | _ => if strict then failType "cannot set property of a plain value"

/-- Calls the method under a key. -/
def invoke (m : Machine) (v : Value) (k : PropertyKey) (args : Array Value) : Run Value := do
  let f ← m.get v k
  if ← isCallable f then m.call f v args
  else failType "not a callable function"

end Machine

end Extraction.Script
