import Extraction.Script.Convert

/-!
# Going through the items of a value

Arrays are gone through position by position, so that items added on the way are met too; anything
else by what its iterator gives.

## Main definitions

* `Iteration`: how far one has come
* `Machine.openIteration`, `Machine.nextItem`, `Machine.closeIteration`
* `Machine.itemsOf`: all items
* `Run.cycle`: a step repeated until it gives a result
-/

namespace Extraction.Script

/-- How far one has come with the items of a value. -/
inductive Iteration where
  | array (r : Ref) (next : Nat)
  | list (values : List Value)
  | object (iterator next : Value)

namespace Run

/-- More turns than any run can take. -/
def patience : Nat := 4611686018427387904

/-- Repeats a step until it gives a result. -/
def cycle {σ α : Type} (step : σ → Run (σ ⊕ α)) (stop : Run α) : (fuel : Nat) → σ → Run α
  | 0, _ => stop
  | fuel + 1, s => do
    match ← step s with
    | .inl s => cycle step stop fuel s
    | .inr a => return a

/-- Repeats a step as often as it takes. -/
def repeated {σ α : Type} (s : σ) (step : σ → Run (σ ⊕ α)) : Run α :=
  cycle step (throw .limit) patience s

/-- What a run gives, or the value that it throws. -/
def attempt {α : Type} (x : Run α) : Run (Except Value α) := fun w =>
  match x w with
  | .ok a w => .ok (.ok a) w
  | .error (.thrown v) w => .ok (.error v) w
  | .error e w => .error e w

/-- What a run gives, or the value that it throws, which the program sees. -/
def caught {α : Type} (x : Run α) : Run (Except Value α) := do
  let result ← attempt x
  match result with
  | .error (.object r) =>
    modifyObject r fun o =>
      match o.kind with
      | .error true => { o with kind := .error false }
      | _ => o
  | _ => pure ()
  return result

/-- The item of an array at a position, if it is stored in the row. -/
def storedItem? (r : Ref) (i : Nat) : Run (Option Value) := do
  match (← objectAt r).kind with
  | .array items _ => return (items[i]?).join
  | _ => return none

end Run

namespace Machine

open Run

/-- Whether a value is an array that is gone through in the usual way. -/
def plainArray? (v : Value) : Run (Option Ref) := do
  match v with
  | .object r =>
    match (← objectAt r).kind with
    | .array .. =>
      match ← property? r WellKnown.iterator.key with
      | some ⟨.data (.object f) _, _, _⟩ =>
        return if f == Intrinsic.arrayValues.ref then some r else none
      | _ => return none
    | _ => return none
  | _ => return none

/-- Begins to go through the items of a value. -/
def openIteration (m : Machine) (v : Value) : Run Iteration := do
  match ← plainArray? v with
  | some r => return .array r 0
  | none =>
    match v with
    | .string s =>
      return .list (s.codePoints.map fun n => .string (Utf16.ofCodePoints [n]))
    | v =>
      if v.isNullish then failNullish
      match ← m.method? v WellKnown.iterator.key with
      | some f =>
        let iterator ← m.call f v #[]
        match iterator with
        | .object _ => return .object iterator (← m.getWord iterator "next")
        | _ => failType "returned iterator is not an object"
      | none => failType "value is not iterable"

/-- The next item, and how far one has come then. -/
def nextItem (m : Machine) (it : Iteration) : Run (Option (Value × Iteration)) := do
  match it with
  | .array r i =>
    match (← objectAt r).kind with
    | .array items length =>
      if i < length then
        match (items[i]?).join with
        | some v => return some (v, .array r (i + 1))
        | none => return some (← m.get (.object r) (.nat i), .array r (i + 1))
      else return none
    | _ => return none
  | .list [] => return none
  | .list (v :: rest) => return some (v, .list rest)
  | .object iterator next =>
    let result ← m.call next iterator #[]
    match result with
    | .object _ =>
      if (← m.getWord result "done").truthy then return none
      else return some (← m.getWord result "value", it)
    | _ => failType "iterator result is not an object"

/-- Tells an iterator that no more items are wanted. -/
def closeIteration (m : Machine) (it : Iteration) : Run Unit := do
  match it with
  | .object iterator _ =>
    match ← m.method? iterator (.word "return") with
    | some f =>
      let _ ← m.call f iterator #[]
      pure ()
    | none => pure ()
  | _ => pure ()

/-- All items of a value. -/
def itemsOf (m : Machine) (v : Value) : Run (Array Value) := do
  let it ← m.openIteration v
  repeated (it, (#[] : Array Value)) fun (it, acc) => do
    match ← m.nextItem it with
    | some (v, it) => return .inl (it, acc.push v)
    | none => return .inr acc

/-- The items of something like an array. -/
def listOf (m : Machine) (v : Value) : Run (Array Value) := do
  let length ← m.lengthOf v
  repeated (0, (#[] : Array Value)) fun (i, acc) => do
    if i < length then return .inl (i + 1, acc.push (← m.get v (.nat i)))
    else return .inr acc

/-- Runs an action for every item; the iterator is told if the action breaks off. -/
def forItems (m : Machine) (v : Value) (f : Value → Run Unit) : Run Unit := do
  let it ← m.openIteration v
  repeated it fun it => do
    match ← m.nextItem it with
    | some (v, it) =>
      match ← attempt (f v) with
      | .ok () => return .inl it
      | .error e =>
        let _ ← attempt (m.closeIteration it)
        raise e
    | none => return .inr ()

end Machine

end Extraction.Script
