import Extraction.Script.Iterate

/-!
# Names and scopes

A name is looked for in the scope at hand, then in the ones around it, and at last among the
properties of the global object.

## Main definitions

* `Scope.locate?`: where a name is bound
* `Machine.readName`, `Machine.writeName`, `Run.introduceName`
* `Run.enterBlock`: the scope of a block
-/

namespace Extraction.Script

namespace Scope

/-- A name without a value yet. -/
def waiting (constant : Bool) : Binding := ⟨none, constant, false⟩

/-- A name with a value. -/
def bound (v : Value) : Binding := ⟨some v, false, false⟩

/-- Where a name is bound, from a scope outward: the scope and the place in it. -/
def locate? (scopes : Array Scope) (n : Name) : (fuel : Nat) → Nat → Option (Nat × Nat)
  | 0, _ => none
  | fuel + 1, i =>
    match scopes[i]? with
    | none => none
    | some s =>
      match s.names.findIdx? fun (m, _) => m == n with
      | some j => some (i, j)
      | none =>
        match s.outer with
        | some o => locate? scopes n fuel o
        | none => none

/-- The nearest scope with a call of its own. -/
def activationAt? (scopes : Array Scope) : (fuel : Nat) → Nat → Option (Nat × Activation)
  | 0, _ => none
  | fuel + 1, i =>
    match scopes[i]? with
    | none => none
    | some s =>
      match s.activation with
      | some a => some (i, a)
      | none =>
        match s.outer with
        | some o => activationAt? scopes fuel o
        | none => none

/-- The nearest scope that variables belong to. -/
def varScope (scopes : Array Scope) : (fuel : Nat) → Nat → Nat
  | 0, i => i
  | fuel + 1, i =>
    match scopes[i]? with
    | none => i
    | some s =>
      if s.holdsVars then i
      else
        match s.outer with
        | some o => varScope scopes fuel o
        | none => i

end Scope

namespace Run

/-- Where a name is bound. -/
def locate? (ctx : Context) (n : Name) : Run (Option (Nat × Nat)) := do
  let w ← get
  return Scope.locate? w.scopes n (w.scopes.size + 1) ctx.scope

/-- The binding at a place. -/
def bindingAt (place : Nat × Nat) : Run Binding := do
  match (← get).scopes[place.1]? with
  | some s =>
    match s.names[place.2]? with
    | some (_, b) => return b
    | none => return Scope.waiting false
  | none => return Scope.waiting false

/-- Gives the binding at a place a value. -/
def setBinding (place : Nat × Nat) (v : Value) : Run Unit :=
  modifyScope place.1 fun s =>
    { s with names := s.names.modify place.2 fun (n, b) => (n, { b with value := some v }) }

/-- Gives a name of the scope at hand, or of one around it, its first value. -/
def introduceName (ctx : Context) (n : Name) (v : Value) : Run Unit := do
  match ← locate? ctx n with
  | some place => setBinding place v
  | none => put Intrinsic.global.ref (.name n) v

/-- Reports a name that is not known. -/
def failUnknown {α : Type} (n : Name) : Run α :=
  fail .reference (n.toText ++ " is not defined".toList)

/-- The call that a place in a program belongs to. -/
def activation? (ctx : Context) : Run (Option (Nat × Activation)) := do
  let w ← get
  return Scope.activationAt? w.scopes (w.scopes.size + 1) ctx.scope

/-- The scope of a block with names that have no value yet and functions still to be made; the scope
at hand if it declares nothing. -/
def enterBlock (ctx : Context) (b : Block) : Run Context := do
  if b.lexical.isEmpty && b.functions.isEmpty then return ctx
  let names := b.lexical.map (fun (n, constant) => (n, Scope.waiting constant)) ++
    (b.functions.map Function.name).eraseDups.map fun n => (n, Scope.bound .undefined)
  let s ← newScope ⟨some ctx.scope, names.toArray, none, false⟩
  return { ctx with scope := s }

/-- A scope of names that have no value yet. -/
def enterNames (ctx : Context) (constant : Bool) (names : List Name) : Run Context := do
  let s ← newScope
    ⟨some ctx.scope, (names.map fun n => (n, Scope.waiting constant)).toArray, none, false⟩
  return { ctx with scope := s }

/-- A new scope with the names and values of the scope at hand. -/
def copyScope (ctx : Context) : Run Context := do
  let s ← newScope (← scopeAt ctx.scope)
  return { ctx with scope := s }

end Run

namespace Machine

open Run

/-- The value of a name; none if it is not known. -/
def readName? (m : Machine) (ctx : Context) (n : Name) : Run (Option Value) := do
  match ← locate? ctx n with
  | some place =>
    match (← bindingAt place).value with
    | some v => return some v
    | none => fail .reference "access of uninitialized binding".toList
  | none =>
    match ← property? Intrinsic.global.ref (.name n) with
    | some p => return some (← m.valueOf (.object Intrinsic.global.ref) (some p))
    | none => return none

/-- The value of a name. -/
def readName (m : Machine) (ctx : Context) (n : Name) : Run Value := do
  match ← m.readName? ctx n with
  | some v => return v
  | none => failUnknown n

/-- Gives a name another value. -/
def writeName (m : Machine) (ctx : Context) (n : Name) (v : Value) : Run Unit := do
  match ← locate? ctx n with
  | some place =>
    let b ← bindingAt place
    if b.value.isNone then fail .reference "access of uninitialized binding".toList
    else if b.constant then
      if !b.quiet || ctx.strict then
        fail .type ("cannot mutate an immutable binding '".toList ++ n.toText ++ ['\''])
    else setBinding place v
  | none =>
    let known := (← property? Intrinsic.global.ref (.name n)).isSome
    if !known && ctx.strict then failUnknown n
    m.set ctx.strict (.object Intrinsic.global.ref) (.name n) v

/-- The value of `this`. -/
def readThis (ctx : Context) : Run Value := do
  match ← activation? ctx with
  | some (_, a) =>
    match a.self with
    | some v => return v
    | none => fail .reference "Must call super constructor before accessing 'this'".toList
  | none => return .object Intrinsic.global.ref

end Machine

end Extraction.Script
