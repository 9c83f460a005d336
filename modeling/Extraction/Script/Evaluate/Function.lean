import Extraction.Script.Evaluate.Scope
import Extraction.Script.Parser.Basic

/-!
# Functions

Making functions, calling them and having them make objects. A call has a scope of its own with the
parameters and the variables of the function.

## Main definitions

* `Run.makeFunction`: the object of a function
* `Machine.callClosure`, `Machine.constructClosure`: calls of functions of the program
-/

namespace Extraction.Script

/-- Names of functions as they are called, like `get x`. -/
def functionName (lead : String) (k : PropertyKey) (symbolName : Option Utf16) : Utf16 :=
  let lead := if lead.isEmpty then #[] else Utf16.ofWord (lead ++ " ")
  match k with
  | .name n => lead ++ n
  | .symbol _ =>
    match symbolName with
    | some d => lead ++ Utf16.ofWord "[" ++ d ++ Utf16.ofWord "]"
    | none => lead

namespace Run

/-- The properties that say how a function is called and how many parameters it has. -/
def functionTable (name : Utf16) (arity : Nat) : PropertyTable :=
  (PropertyTable.empty.insert (.word "length") (.readOnly (.nat arity))).insert (.word "name")
    (.readOnly (.string name))

/-- The object of a function in a scope. A plain function comes with an object for what it makes. -/
def makeFunction (ctx : Context) (f : Function) (home : Option Ref) : Run Ref := do
  let r ← alloc
    { proto := some Intrinsic.function.ref
      extensible := true
      kind := .closure ⟨f, ctx.scope, home, [], false⟩
      table := functionTable f.name f.arity }
  if f.sort == .plain then
    let p ← newObject Intrinsic.object.ref .ordinary
    defineProperty p (.word "constructor") (.hidden (.object r))
    defineProperty r (.word "prototype") ⟨.data (.object p) true, false, false⟩
  return r

/-- The object that holds the arguments of a call. -/
def makeArguments (args : Array Value) : Run Value := do
  let r ← newObject Intrinsic.object.ref .arguments
  for (v, i) in args.toList.zipIdx do
    put r (.nat i) v
  defineProperty r (.word "length") (.hidden (.nat args.size))
  defineProperty r WellKnown.iterator.key (.hidden (.object Intrinsic.arrayValues.ref))
  return .object r

/-- Does something as a call of its own: calls may not nest too deep, and the turns of loops are
counted anew. -/
def asCall {α : Type} (recursionLimit : Nat) (x : Run α) : Run α := fun w =>
  if recursionLimit ≤ w.frames then .error .limit w
  else
    match x { w with frames := w.frames + 1, loops := 0 } with
    | .ok a w' => .ok a { w' with frames := w.frames, loops := w.loops }
    | .error e w' => .error e { w' with frames := w.frames, loops := w.loops }

/-- The value of `this` in a function that is not strict. -/
def boxedThis (v : Value) : Run Value := do
  match v with
  | .undefined | .null => return .object Intrinsic.global.ref
  | v => return .object (← toObject v)

end Run

namespace Machine

open Run

/-- Whether a pattern is just a name. -/
def plainName? : Pattern → Option Name
  | .target (.ident n) => some n
  | _ => none

/-- Gives the parameters their arguments. -/
def bindParams (m : Machine) (ctx : Context) (args : Array Value) :
    (i : Nat) → List Pattern → Run Unit
  | _, [] => pure ()
  | i, p :: rest => do
    let v := args.getD i .undefined
    match plainName? p with
    | some n => introduceName ctx n v
    | none => m.bind ctx .introduce p v
    bindParams m ctx args (i + 1) rest

/-- Runs statements one after the other. The value of the last one that has any is left behind. -/
def runList (m : Machine) (ctx : Context) : (v : Option Value) → List Stmt → Run Completion
  | v, [] => return .normal v
  | v, s :: rest => do
    match ← m.stmt ctx [] s with
    | .normal none => runList m ctx v rest
    | .normal (some u) => runList m ctx (some u) rest
    | .breakTo label u => return .breakTo label (u <|> v)
    | .continueTo label u => return .continueTo label (u <|> v)
    | .returned u => return .returned u

/-- Makes the functions that a block declares. -/
def makeFunctions (ctx : Context) (b : Block) : Run Unit := do
  for f in b.functions do
    let r ← makeFunction ctx f none
    introduceName ctx f.name (.object r)

/-- The scope of a call, its parameters bound, its variables and functions there. -/
def enterCall (m : Machine) (c : Closure) (a : Option Activation) (args : Array Value) :
    Run Context := do
  let f := c.code
  let params := itemNames f.params ++ restNames f.rest
  let simple := f.params.all fun p => (plainName? p).isSome
  let start := if simple then Scope.bound .undefined else Scope.waiting false
  let vars := f.body.vars.eraseDups.filter fun n => !params.contains n
  -- an arrow function sees the arguments of the function around it
  let vars := if f.sort == .arrow then vars.filter (· != Parser.argumentsName) else vars
  let functions := (f.body.functions.map Function.name).filter fun n =>
    !params.contains n && !vars.contains n
  let names := params.map (fun n => (n, start)) ++
    (vars ++ functions.eraseDups).map (fun n => (n, Scope.bound .undefined)) ++
    f.body.lexical.map fun (n, constant) => (n, Scope.waiting constant)
  let s ← newScope ⟨some c.scope, names.toArray, a, true⟩
  let ctx : Context := ⟨s, f.strict⟩
  if vars.contains Parser.argumentsName then
    introduceName ctx Parser.argumentsName (← makeArguments args)
  m.bindParams ctx args 0 f.params
  match f.rest with
  | some p => m.bind ctx .introduce p (← newArray (args.extract f.params.length args.size))
  | none => pure ()
  makeFunctions ctx f.body
  return ctx

/-- Runs the body of a function. -/
def runBody (m : Machine) (ctx : Context) (f : Function) : Run Value := do
  match f.value with
  | some e => m.expr ctx e
  | none =>
    match ← m.runList ctx none f.body.body with
    | .returned v => return v
    | _ => return .undefined

/-- Calls a function of the program. -/
def callClosure (m : Machine) (r : Ref) (c : Closure) (self : Value) (args : Array Value) :
    Run Value := do
  if c.isClass then failType "class constructor cannot be invoked without 'new'"
  asCall m.settings.recursionLimit do
    let a ← match c.code.sort with
      | .arrow => pure none
      | _ =>
        let self ← if c.code.strict then pure self else boxedThis self
        pure (some ⟨some self, r, none, c.home⟩)
    let ctx ← m.enterCall c a args
    m.runBody ctx c.code

/-- The object that a new object has for its parent: the `prototype` of the function asked for. -/
def prototypeFor (m : Machine) (newTarget : Ref) (usual : Intrinsic) : Run Ref := do
  match ← m.getWord (.object newTarget) "prototype" with
  | .object p => return p
  | _ => return usual.ref

/-- Gives a new instance the fields of its class. -/
def makeFields (m : Machine) (self : Value) (fields : List (PropertyKey × Option Ref)) :
    Run Unit := do
  match self with
  | .object r =>
    for (k, f) in fields do
      let v ← match f with
        | some f => m.call (.object f) self #[]
        | none => pure .undefined
      put r k v
  | _ => pure ()

/-- Has a function of the program make an object. -/
def constructClosure (m : Machine) (r : Ref) (c : Closure) (args : Array Value) (newTarget : Ref) :
    Run Value := do
  match c.code.sort with
  | .arrow | .method => failType "not a constructor"
  | .derivedConstructor =>
    asCall m.settings.recursionLimit do
      let ctx ← m.enterCall c (some ⟨none, r, some newTarget, c.home⟩) args
      match ← m.runBody ctx c.code with
      | .object o => return .object o
      | .undefined => readThis ctx
      | _ => failType "derived constructor can only return an Object or undefined"
  | _ =>
    asCall m.settings.recursionLimit do
      let p ← m.prototypeFor newTarget .object
      let self := Value.object (← newObject p .ordinary)
      m.makeFields self c.fields
      let ctx ← m.enterCall c (some ⟨some self, r, some newTarget, c.home⟩) args
      match ← m.runBody ctx c.code with
      | .object o => return .object o
      | _ => return self

end Machine

end Extraction.Script
