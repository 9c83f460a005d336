import Extraction.Script.Evaluate.Function
import Extraction.Script.Evaluate.Operator

/-!
# Evaluating expressions

Operands are evaluated from left to right. What is assigned to or called is first found as a place,
so that its parts are evaluated only once.

## Main definitions

* `Place`: where a value can be read and written
* `Machine.evaluate`: the value of an expression
* `Machine.bindPattern`: a value put where a pattern says
-/

namespace Extraction.Script

/-- Where a value can be read and written. -/
inductive Place where
  | name (n : Name)
  | property (base : Value) (k : PropertyKey)
  /-- A property of the parent of the home of a method, on behalf of `this`. -/
  | parental (parent : Option Ref) (self : Value) (k : PropertyKey)

/-- Whether an expression is a function without a name of its own. -/
def Expr.isNameless : Expr → Bool
  | .function f => f.name.isEmpty
  | .classExpr (.mk name ..) => name.isEmpty
  | _ => false

namespace Machine

open Run

/-- The value of an expression that is known by a name, which a function without one takes on. -/
def named (m : Machine) (ctx : Context) (name : Name) (e : Expr) : Run Value := do
  match e with
  | .function f =>
    if f.name.isEmpty then return .object (← makeFunction ctx (f.rename name) none)
    else m.expr ctx e
  | .classExpr (.mk own parent maker members) =>
    if own.isEmpty then
      let v ← m.expr ctx (.classExpr (.mk own parent maker members))
      match v with
      | .object r => defineProperty r (.word "name") (.readOnly (.string name))
      | _ => pure ()
      return v
    else m.expr ctx e
  | e => m.expr ctx e

/-- The key that an expression or a name is. -/
def keyOf (m : Machine) (ctx : Context) (k : Key) : Run PropertyKey := do
  match k with
  | .fixed n => return .name n
  | .computed e => m.toKey (← m.expr ctx e)

/-- The parent of the home of the method at hand. -/
def parentalHome (ctx : Context) : Run (Option Ref) := do
  match ← activation? ctx with
  | some (_, a) =>
    match a.home with
    | some h => return (← objectAt h).proto
    | none => return none
  | none => return none

/-- The place that an expression is. -/
def placeOf (m : Machine) (ctx : Context) (e : Expr) : Run Place := do
  match e with
  | .ident n => return .name n
  | .member o n => return .property (← m.expr ctx o) (.name n)
  | .index o k =>
    let base ← m.expr ctx o
    let key ← m.expr ctx k
    if base.isNullish then failNullish
    return .property base (← m.toKey key)
  | .superMember k =>
    let self ← readThis ctx
    let key ← m.keyOf ctx k
    return .parental (← parentalHome ctx) self key
  | _ => fail .reference "invalid assignment target".toList

/-- The value at a place. -/
def readPlace (m : Machine) (ctx : Context) (p : Place) : Run Value := do
  match p with
  | .name n => m.readName ctx n
  | .property base k => m.get base k
  | .parental parent self k =>
    match parent with
    | some r => m.getFor r k self
    | none => failNullish

/-- Puts a value at a place. -/
def writePlace (m : Machine) (ctx : Context) (p : Place) (v : Value) : Run Unit := do
  match p with
  | .name n => m.writeName ctx n v
  | .property base k => m.set ctx.strict base k v
  | .parental _ self k => m.set ctx.strict self k v

/-- The values of arguments or items; holes are left out. -/
def spreadItems (m : Machine) (ctx : Context) : (acc : Array Value) → List Item → Run (Array Value)
  | acc, [] => return acc
  | acc, .one e :: rest => do spreadItems m ctx (acc.push (← m.expr ctx e)) rest
  | acc, .spread e :: rest => do
    let more ← m.itemsOf (← m.expr ctx e)
    spreadItems m ctx (acc ++ more) rest
  | acc, .hole :: rest => spreadItems m ctx acc rest

/-- The values of expressions. -/
def evaluateAll (m : Machine) (ctx : Context) : List Expr → Run (List Value)
  | [] => return []
  | e :: rest => do
    let v ← m.expr ctx e
    return v :: (← evaluateAll m ctx rest)

/-- The items of an array in an expression, holes among them. -/
def arrayItems (m : Machine) (ctx : Context) : (acc : Array (Option Value)) → List Item →
    Run (Array (Option Value))
  | acc, [] => return acc
  | acc, .one e :: rest => do
    let v ← m.expr ctx e
    arrayItems m ctx (acc.push (some v)) rest
  | acc, .spread e :: rest => do
    let more ← m.itemsOf (← m.expr ctx e)
    arrayItems m ctx (acc ++ more.map some) rest
  | acc, .hole :: rest => arrayItems m ctx (acc.push none) rest

/-- Does something whose optional parts may be left out, together with all of it. -/
def skippable {α : Type} (missing : α) (x : Run α) : Run α := fun w =>
  match x w with
  | .error .skip w => .ok missing w
  | r => r

/-- What is called, and the `this` of the call. -/
def callee (m : Machine) (ctx : Context) : Expr → Run (Value × Value)
  | .optional e => do
    let (f, self) ← callee m ctx e
    if f.isNullish then throw .skip
    return (f, self)
  | .chain e => skippable (.undefined, .undefined) (callee m ctx e)
  | .member o n => do
    let base ← m.expr ctx o
    return (← m.get base (.name n), base)
  | .index o k => do
    let base ← m.expr ctx o
    let key ← m.expr ctx k
    if base.isNullish then failNullish
    return (← m.get base (← m.toKey key), base)
  | .superMember k => do
    let p ← m.placeOf ctx (.superMember k)
    return (← m.readPlace ctx p, ← readThis ctx)
  | e => do return (← m.expr ctx e, .undefined)

/-- The function that constructs, or a report that there is none. -/
def constructorOf (v : Value) : Run Ref := do
  match v with
  | .object r =>
    match (← objectAt r).kind with
    | .closure _ | .builtin _ | .bound .. => return r
    | _ => failType "not a constructor"
  | _ => failType "not a constructor"

/-- Calls the constructor of the parent; `this` is what it makes. -/
def callParent (m : Machine) (ctx : Context) (args : Array Value) : Run Value := do
  match ← activation? ctx with
  | some (scope, a) =>
    let parent ← match (← objectAt a.callee).proto with
      | some p => constructorOf (.object p)
      | none => failType "super constructor is not a constructor"
    let self ← m.construct parent args (a.newTarget.getD a.callee)
    match (← activation? ctx) with
    | some (_, a) =>
      if a.self.isSome then fail .reference "super() has already been called".toList
    | none => pure ()
    modifyScope scope fun s =>
      { s with activation := s.activation.map fun a => { a with self := some self } }
    match (← objectAt a.callee).kind with
    | .closure c => m.makeFields self c.fields
    | _ => pure ()
    return self
  | none => failType "super constructor is not a constructor"

/-- Copies the properties of a value that loops over keys show, apart from some. -/
def copyProperties (m : Machine) (target : Ref) (source : Value) (except : List PropertyKey) :
    Run Unit := do
  if source.isNullish then return
  let r ← toObject source
  for k in ← ownKeys r do
    if !except.contains k then
      match ← ownProperty? r k with
      | some p => if p.enumerable then put target k (← m.valueOf source (some p))
      | none => pure ()

/-- The property of a getter or a setter beside the other of the two that may be there. -/
def withAccessor (r : Ref) (k : PropertyKey) (getter : Bool) (f : Ref) (enumerable : Bool) :
    Run Property := do
  let (g, s) ← match ← ownProperty? r k with
    | some ⟨.accessor g s, _, _⟩ => pure (g, s)
    | _ => pure (none, none)
  let content := if getter then Content.accessor (some f) s else Content.accessor g (some f)
  return ⟨content, enumerable, true⟩

/-- The description of the symbol that a key is. -/
def symbolName (k : PropertyKey) : Run (Option Utf16) := do
  match k with
  | .symbol id => return ((← MonadState.get).symbols[id]?).join
  | .name _ => return none

/-- The function of a method of an object. -/
def makeMethod (ctx : Context) (f : Function) (home : Ref) (lead : String) (k : PropertyKey) :
    Run Ref := do
  makeFunction ctx (f.rename (functionName lead k (← symbolName k))) (some home)

/-- Gives an object a member. -/
def defineMember (m : Machine) (ctx : Context) (home : Ref) (enumerable : Bool) (member : Member) :
    Run Unit := do
  match member with
  | .value key e =>
    let k ← m.keyOf ctx key
    let v ← if e.isNameless then
        m.named ctx (functionName "" k (← symbolName k)) e
      else m.expr ctx e
    put home k v
  | .method key f =>
    let k ← m.keyOf ctx key
    let r ← makeMethod ctx f home "" k
    defineProperty home k ⟨.data (.object r) true, enumerable, true⟩
  | .getter key f =>
    let k ← m.keyOf ctx key
    let r ← makeMethod ctx f home "get" k
    defineProperty home k (← withAccessor home k true r enumerable)
  | .setter key f =>
    let k ← m.keyOf ctx key
    let r ← makeMethod ctx f home "set" k
    defineProperty home k (← withAccessor home k false r enumerable)
  | .proto e =>
    match ← m.expr ctx e with
    | .object p => modifyObject home fun o => { o with proto := some p }
    | .null => modifyObject home fun o => { o with proto := none }
    | _ => pure ()
  | .spread e => m.copyProperties home (← m.expr ctx e) []

/-- The usual constructor of a class. -/
def usualMaker (name : Name) (derived : Bool) : Function :=
  let args : Name := Utf16.ofWord "args"
  if derived then
    .mk name .derivedConstructor true [] (some (.target (.ident args)))
      (.mk [] [] [] [.expr (.superCall [.spread (.ident args)])]) none
  else .mk name .constructor true [] none .empty none

/-- The function of a class. -/
def makeClass (m : Machine) (outer : Context) (c : Class) : Run Value := do
  match c with
  | .mk name parent maker members =>
    let ctx ← if name.isEmpty then pure outer else enterNames outer true [name]
    let ctx := { ctx with strict := true }
    let (protoParent, classParent) ← match parent with
      | none => pure (some Intrinsic.object.ref, Intrinsic.function.ref)
      | some e =>
        match ← m.expr ctx e with
        | .null => pure (none, Intrinsic.function.ref)
        | v =>
          let p ← constructorOf v
          match ← m.getWord v "prototype" with
          | .object q => pure (some q, p)
          | .null => pure (none, p)
          | _ => failType "superclass prototype must be an object or null"
    let proto ← alloc ⟨protoParent, true, .ordinary, .empty⟩
    let code := maker.getD (usualMaker name parent.isSome)
    let r ← alloc
      { proto := some classParent
        extensible := true
        kind := .closure ⟨code, ctx.scope, some proto, [], true⟩
        table := functionTable name code.arity }
    defineProperty r (.word "prototype") (.constant (.object proto))
    defineProperty proto (.word "constructor") (.hidden (.object r))
    -- methods at once; fields when there is something to give them to
    let mut fields : List (PropertyKey × Option Ref) := []
    let mut later : List (Run Unit) := []
    for member in members do
      match member with
      | .method onClass member => m.defineMember ctx (if onClass then r else proto) false member
      | .field onClass key value =>
        let k ← m.keyOf ctx key
        let f ← match value with
          | some f =>
            let made ← makeFunction ctx f (some (if onClass then r else proto))
            pure (some made)
          | none => pure none
        if onClass then later := later ++ [m.makeFields (.object r) [(k, f)]]
        else fields := fields ++ [(k, f)]
      | .initial f =>
        let made ← makeFunction ctx f (some r)
        later := later ++ [do
          let _ ← m.call (.object made) (.object r) #[]
          pure ()]
    let found := fields
    modifyObject r fun o =>
      match o.kind with
      | .closure c => { o with kind := .closure { c with fields := found } }
      | _ => o
    if !name.isEmpty then introduceName ctx name (.object r)
    for step in later do
      step
    return .object r

/-- Joins the parts of a text and the strings of the values between them. -/
def joinTemplate (m : Machine) (ctx : Context) : (acc : Utf16) → List Utf16 → List Expr → Run Utf16
  | acc, [], _ => return acc
  | acc, [t], _ => return acc ++ t
  | acc, t :: _, [] => return acc ++ t
  | acc, t :: texts, e :: values => do
    let v ← m.expr ctx e
    let s ← m.toStr v
    joinTemplate m ctx (acc ++ t ++ s) texts values

/-- Takes away what an expression refers to. -/
def deleteAt (m : Machine) (ctx : Context) (e : Expr) : Run Value := do
  let fromPlace (e : Expr) : Run Value := do
    match ← m.placeOf ctx e with
    | .name n =>
      match ← locate? ctx n with
      | some _ => return .bool false
      | none => return .bool (← deleteProperty Intrinsic.global.ref (.name n))
    | .property base k =>
      let r ← toObject base
      let done ← deleteProperty r k
      if !done && ctx.strict then failType "Cannot delete property"
      return .bool done
    | .parental .. => fail .reference "cannot delete a property of 'super'".toList
  match e with
  | .ident _ | .member .. | .index .. | .superMember _ => fromPlace e
  | .chain inner => skippable (.bool true) (fromPlace inner)
  | e =>
    let _ ← m.expr ctx e
    return .bool true

/-- Assigns to a place after an operation on what was there. -/
def assignTo (m : Machine) (ctx : Context) (op : AssignOp) (target value : Expr) : Run Value := do
  let known : Option Name := match target with
    | .ident n => some n
    | _ => none
  let evaluate : Run Value :=
    match known with
    | some n => m.named ctx n value
    | none => m.expr ctx value
  match op with
  | .plain =>
    match target with
    | .ident n =>
      let v ← evaluate
      m.writeName ctx n v
      return v
    | target =>
      let p ← m.placeOf ctx target
      let v ← evaluate
      m.writePlace ctx p v
      return v
  | .binary op =>
    let p ← m.placeOf ctx target
    let old ← m.readPlace ctx p
    let v ← m.expr ctx value
    let v ← m.binary op old v
    m.writePlace ctx p v
    return v
  | .logical op =>
    let p ← m.placeOf ctx target
    let old ← m.readPlace ctx p
    let settled := match op with
      | .and => !old.truthy
      | .or => old.truthy
      | .coalesce => !old.isNullish
    if settled then return old
    let v ← evaluate
    m.writePlace ctx p v
    return v

/-- The value one up or down from a value. -/
def counted (up : Bool) (n : Numeric) : Value :=
  match n with
  | .number n => .number (if up then n.succ else n.pred)
  | .bigint n => .bigint (if up then n + 1 else n - 1)

/-- The object of the parts of a text that a function is applied to. -/
def templateObject (cooked : List (Option Utf16)) (raw : List Utf16) : Run Value := do
  let list ← newArray (cooked.map fun s => match s with
    | some s => Value.string s
    | none => .undefined).toArray
  let rawList ← newArray (raw.map Value.string).toArray
  match list with
  | .object r => defineProperty r (.word "raw") (.constant rawList)
  | _ => pure ()
  return list

/-- The value of an expression. -/
def evaluate (m : Machine) (ctx : Context) (e : Expr) : Run Value := do
  match e with
  | .null => return .null
  | .bool b => return .bool b
  | .number n => return .number n
  | .bigint n => return .bigint n
  | .string s => return .string s
  | .ident n => m.readName ctx n
  | .this => readThis ctx
  | .member o n => m.get (← m.expr ctx o) (.name n)
  | .index o k =>
    let base ← m.expr ctx o
    let key ← m.expr ctx k
    match base, key with
    | .object r, .number (.int (.ofNat i)) =>
      match ← storedItem? r i with
      | some v => return v
      | none => m.get base (← m.toKey key)
    | .string s, .number (.int (.ofNat i)) =>
      match unitAt? s i with
      | some v => return v
      | none => m.get base (← m.toKey key)
    | base, key =>
      if base.isNullish then failNullish
      m.get base (← m.toKey key)
  | .call f args =>
    let (f, self) ← m.callee ctx f
    let args ← m.spreadItems ctx #[] args
    m.call f self args
  | .binary op a b =>
    let x ← m.expr ctx a
    let y ← m.expr ctx b
    m.binary op x y
  | .logical op a b =>
    let x ← m.expr ctx a
    let settled := match op with
      | .and => !x.truthy
      | .or => x.truthy
      | .coalesce => !x.isNullish
    if settled then return x else m.expr ctx b
  | .conditional test yes no =>
    if (← m.expr ctx test).truthy then m.expr ctx yes else m.expr ctx no
  | .assign op target value => m.assignTo ctx op target value
  | .assignPattern p value =>
    let v ← m.expr ctx value
    m.bind ctx .assign p v
    return v
  | .update up first target =>
    let p ← m.placeOf ctx target
    let old ← m.toNumeric (← m.readPlace ctx p)
    let v := counted up old
    m.writePlace ctx p v
    return if first then v else old.toValue
  | .unary op e =>
    match op with
    | .not => return .bool !(← m.expr ctx e).truthy
    | .void =>
      let _ ← m.expr ctx e
      return .undefined
    | .typeOf =>
      let v ← match e with
        | .ident n => do
          let found ← m.readName? ctx n
          pure (found.getD .undefined)
        | e => m.expr ctx e
      return .word (← typeOf v)
    | .delete => m.deleteAt ctx e
    | op => m.unaryNumeric op (← m.expr ctx e)
  | .template texts values => return .string (← m.joinTemplate ctx #[] texts values)
  | .tagged tag cooked raw values =>
    let (f, self) ← m.callee ctx tag
    let strings ← templateObject cooked raw
    let args ← m.evaluateAll ctx values
    m.call f self (strings :: args).toArray
  | .array items =>
    let items ← m.arrayItems ctx #[] items
    return .object (← newObject Intrinsic.array.ref (.array items items.size))
  | .object members =>
    let r ← newObject Intrinsic.object.ref .ordinary
    for member in members do
      m.defineMember ctx r true member
    return .object r
  | .function f =>
    if f.name.isEmpty || f.sort != .plain then return .object (← makeFunction ctx f none)
    else
      let s ← newScope ⟨some ctx.scope, #[(f.name, ⟨some .undefined, true, true⟩)], none, false⟩
      let r ← makeFunction { ctx with scope := s } f none
      setBinding (s, 0) (.object r)
      return .object r
  | .classExpr c => m.makeClass ctx c
  | .regexp source flags =>
    m.construct Intrinsic.regexpMaker.ref #[.string source, .string flags] Intrinsic.regexpMaker.ref
  | .new callee args =>
    let f ← m.expr ctx callee
    let args ← m.spreadItems ctx #[] args
    let r ← constructorOf f
    m.construct r args r
  | .newTarget =>
    match ← activation? ctx with
    | some (_, a) => return (a.newTarget.map Value.object).getD .undefined
    | none => return .undefined
  | .superMember k => m.readPlace ctx (← m.placeOf ctx (.superMember k))
  | .superCall args =>
    let args ← m.spreadItems ctx #[] args
    m.callParent ctx args
  | .optional e =>
    let v ← m.expr ctx e
    if v.isNullish then throw .skip
    return v
  | .chain e => skippable .undefined (m.expr ctx e)
  | .sequence a b =>
    let _ ← m.expr ctx a
    m.expr ctx b

/-- Puts a value at the target of a pattern. -/
def bindTarget (m : Machine) (ctx : Context) (mode : BindMode) (e : Expr) (v : Value) : Run Unit := do
  match mode, e with
  | .introduce, .ident n => introduceName ctx n v
  | _, .ident n => m.writeName ctx n v
  | _, e => m.writePlace ctx (← m.placeOf ctx e) v

/-- Puts the members of a value where the members of a pattern say. -/
def bindMembers (m : Machine) (ctx : Context) (mode : BindMode) (v : Value)
    (rest : Option Pattern) : (seen : List PropertyKey) → List (Key × Pattern) → Run Unit
  | seen, [] => do
    match rest with
    | some p =>
      let r ← newObject Intrinsic.object.ref .ordinary
      m.copyProperties r v seen
      m.bind ctx mode p (.object r)
    | none => pure ()
  | seen, (key, p) :: more => do
    let k ← m.keyOf ctx key
    m.bind ctx mode p (← m.get v k)
    bindMembers m ctx mode v rest (k :: seen) more

/-- Puts the items of a value where the items of a pattern say. -/
def bindItems (m : Machine) (ctx : Context) (mode : BindMode) (rest : Option Pattern) :
    (it : Option Iteration) → List Pattern → Run Unit
  | it, [] => do
    match rest with
    | some p =>
      let items ← match it with
        | some it =>
          repeated (it, (#[] : Array Value)) fun (it, acc) => do
            match ← m.nextItem it with
            | some (v, it) => return .inl (it, acc.push v)
            | none => return .inr acc
        | none => pure #[]
      m.bind ctx mode p (← newArray items)
    | none =>
      match it with
      | some it => m.closeIteration it
      | none => pure ()
  | it, p :: more => do
    let next ← match it with
      | some it => m.nextItem it
      | none => pure none
    let (v, it) := match next with
      | some (v, it) => (v, some it)
      | none => (Value.undefined, none)
    match p with
    | .skip => pure ()
    | p => m.bind ctx mode p v
    bindItems m ctx mode rest it more

/-- Puts a value where a pattern says. -/
def bindPattern (m : Machine) (ctx : Context) (mode : BindMode) (p : Pattern) (v : Value) :
    Run Unit := do
  match p with
  | .target e => m.bindTarget ctx mode e v
  | .initial p e =>
    let v ← if v.isUndefined then
        match plainName? p with
        | some n => m.named ctx n e
        | none => m.expr ctx e
      else pure v
    m.bind ctx mode p v
  | .object members rest =>
    if v.isNullish then failNullish
    m.bindMembers ctx mode v rest [] members
  | .array items rest =>
    let it ← m.openIteration v
    m.bindItems ctx mode rest (some it) items
  | .skip => pure ()

end Machine

end Extraction.Script
