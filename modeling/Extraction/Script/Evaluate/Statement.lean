import Extraction.Script.Evaluate.Expression

/-!
# Running statements

A statement ends as usual, with a value perhaps, or goes elsewhere. The turns of all loops of a call
are counted together, and may not be too many.

## Main definitions

* `Machine.tick`: counts a turn
* `Machine.execute`: runs a statement
* `Machine.runBlock`: runs a block in a scope of its own
-/

namespace Extraction.Script

/-- How a loop goes on after its body. -/
inductive Turn where
  | again (v : Option Value)
  | leave (c : Completion)

/-- How a loop under some labels goes on after a body that ended so, with `v` the last value. -/
def Turn.after (labels : List Name) (v : Option Value) (c : Completion) : Turn :=
  let mine (label : Option Name) : Bool := match label with
    | none => true
    | some n => labels.contains n
  match c with
  | .normal u => .again (u <|> v)
  | .continueTo label u =>
    if mine label then .again (u <|> v) else .leave (.continueTo label (u <|> v))
  | .breakTo label u =>
    if mine label then .leave (.normal (some ((u <|> v).getD .undefined)))
    else .leave (.breakTo label (u <|> v))
  | .returned u => .leave (.returned u)

/-- The end of a loop with `v` the last value. -/
def Completion.ofLoop (v : Option Value) : Completion := .normal (some (v.getD .undefined))

/-- The completion with a value if it has none. -/
def Completion.orUndefined : Completion → Completion
  | .normal none => .normal (some .undefined)
  | .breakTo label none => .breakTo label (some .undefined)
  | .continueTo label none => .continueTo label (some .undefined)
  | c => c

namespace Machine

open Run

/-- Counts a turn of a loop of the present call. -/
def tick (m : Machine) : Run Unit := do
  let turns := (← MonadState.get).loops
  let limit := m.settings.loopLimit
  if limit != 0 && limit < turns then throw .limit
  modify fun w => { w with loops := turns + 1 }

/-- Runs a block in a scope of its own. -/
def runBlock (m : Machine) (ctx : Context) (b : Block) : Run Completion := do
  let ctx ← enterBlock ctx b
  makeFunctions ctx b
  m.runList ctx none b.body

/-- Runs a loop: `before` counts the turn and says whether there is one, `after` follows the body. -/
def runLoop {σ : Type} (m : Machine) (labels : List Name) (body : Stmt)
    (before : σ → Run (Option (Context × σ))) (after : Context × σ → Run σ) (start : σ) :
    Run Completion :=
  repeated (start, (none : Option Value)) fun (s, v) => do
    match ← before s with
    | none => return .inr (.ofLoop v)
    | some (ctx, s) =>
      match Turn.after labels v (← m.stmt ctx [] body) with
      | .leave c => return .inr c
      | .again v =>
        let s ← after (ctx, s)
        return .inl (s, v)

/-- Runs a loop that counts. -/
def runFor (m : Machine) (ctx : Context) (labels : List Name) (start : LoopStart)
    (test update : Option Expr) (body : Stmt) (captures : Bool) : Run Completion := do
  let (ctx, fresh) ← match start with
    | .plain s =>
      let _ ← m.stmt ctx [] s
      pure (ctx, false)
    | .declare constant names s =>
      let inner ← enterNames ctx constant names
      let _ ← m.stmt inner [] s
      pure (inner, captures && !constant)
  let check (ctx : Context) : Run (Option (Context × Context)) := do
    match test with
    | none => return some (ctx, ctx)
    | some e => return if (← m.expr ctx e).truthy then some (ctx, ctx) else none
  -- each turn has variables of its own if a function may hold on to them
  let start ← if fresh then copyScope ctx else pure ctx
  m.runLoop labels body check (fun (_, ctx) => do
    let ctx ← if fresh then copyScope ctx else pure ctx
    m.tick
    match update with
    | some e =>
      let _ ← m.expr ctx e
      pure ()
    | none => pure ()
    return ctx) start

/-- Puts the item of a turn where the loop says, in a scope for the turn if names are declared. -/
def bindHead (m : Machine) (ctx : Context) (head : LoopHead) (v : Value) : Run Context := do
  match head with
  | .assign p | .var p =>
    m.bind ctx .assign p v
    return ctx
  | .declare constant names p =>
    let inner ← enterNames ctx constant names
    m.bind inner .introduce p v
    return inner

/-- The scope in which the object of a loop over items is evaluated: the names that the loop declares
have no value there yet. -/
def headContext (ctx : Context) (head : LoopHead) : Run Context := do
  match head with
  | .declare _ names _ => enterNames ctx false names
  | _ => return ctx

/-- The keys that a loop over keys meets, of an object and its parents, of which there are at most
`fuel`. -/
def loopKeys : (fuel : Nat) → (seen : List PropertyKey) → Ref → Run (List (Ref × Name))
  | 0, _, _ => return []
  | fuel + 1, seen, r => do
    let keys ← ownKeys r
    let shown ← (← ownNames r).filterMapM fun n =>
      return if seen.contains (.name n) then none else some (r, n)
    match (← objectAt r).proto with
    | some p =>
      -- the keys that are hidden here are hidden in the parents as well
      if (← objectAt p).table.entries.isEmpty then return shown
      else return shown ++ (← loopKeys fuel (keys ++ seen) p)
    | none => return shown

/-- Runs a loop over keys. -/
def runForIn (m : Machine) (ctx : Context) (labels : List Name) (head : LoopHead) (object : Expr)
    (body : Stmt) : Run Completion := do
  let v ← m.expr (← headContext ctx head) object
  if v.isNullish then return .normal (some .undefined)
  let r ← toObject v
  let keys ← loopKeys 1000 [] r
  let next : List (Ref × Name) → Run (Option (Context × List (Ref × Name))) := fun keys => do
    m.tick
    repeated keys fun keys => do
      match keys with
      | [] => return .inr none
      | (r, n) :: rest =>
        -- keys taken away on the way are passed over
        if (← ownProperty? r (.name n)).isSome then
          let inner ← m.bindHead ctx head (.string n)
          return .inr (some (inner, rest))
        else return .inl rest
  m.runLoop labels body next (fun (_, rest) => pure rest) keys

/-- Runs a loop over items. -/
def runForOf (m : Machine) (ctx : Context) (labels : List Name) (head : LoopHead) (object : Expr)
    (body : Stmt) : Run Completion := do
  let v ← m.expr (← headContext ctx head) object
  let it ← m.openIteration v
  repeated (it, (none : Option Value)) fun (it, v) => do
    m.tick
    match ← m.nextItem it with
    | none => return .inr (.ofLoop v)
    | some (item, it) =>
      let turn ← caught do
        let inner ← m.bindHead ctx head item
        m.stmt inner [] body
      match turn with
      | .error e =>
        let _ ← attempt (m.closeIteration it)
        raise e
      | .ok c =>
        match Turn.after labels v c with
        | .again v => return .inl (it, v)
        | .leave c =>
          m.closeIteration it
          return .inr c

/-- What follows the label of the case that a value meets, or the default one. -/
def caseFor (m : Machine) (ctx : Context) (v : Value) (all : List Stmt) : List Stmt →
    Run (List Stmt)
  | [] =>
    return (all.dropWhile fun s => match s with
      | .caseLabel none => false
      | _ => true)
  | .caseLabel (some e) :: rest => do
    if strictEquals v (← m.expr ctx e) then return rest else caseFor m ctx v all rest
  | _ :: rest => caseFor m ctx v all rest

/-- Runs an attempt with its handler and what follows in any case. -/
def runTry (m : Machine) (ctx : Context) (body : Block) (param : Option Pattern)
    (handler final : Option Block) : Run Completion := do
  let handled : Run Completion :=
    match handler with
    | none => m.runBlock ctx body
    | some h => do
      match ← caught (m.runBlock ctx body) with
      | .ok c => return c
      | .error e =>
        match param with
        | none => m.runBlock ctx h
        | some p =>
          let inner ← enterNames ctx false p.names
          m.bind inner .introduce p e
          m.runBlock inner h
  match final with
  | none => return (← handled).orUndefined
  | some f =>
    let result ← caught handled
    match ← m.runBlock ctx f with
    | .normal _ =>
      match result with
      | .ok c => return c.orUndefined
      | .error e => raise e
    | c => return c.orUndefined

/-- Gives the variable of a function declared in a block the function. -/
def bringOutward (m : Machine) (ctx : Context) (n : Name) : Run Unit := do
  let v ← m.readName ctx n
  let w ← MonadState.get
  let outer := Scope.varScope w.scopes (w.scopes.size + 1) ctx.scope
  match w.scopes[outer]? with
  | some s =>
    if s.outer.isNone then put Intrinsic.global.ref (.name n) v
    else
      match s.names.findIdx? fun (k, _) => k == n with
      | some j => setBinding (outer, j) v
      | none => pure ()
  | none => pure ()

/-- Runs a statement that stands under labels. -/
def execute (m : Machine) (ctx : Context) (labels : List Name) (s : Stmt) : Run Completion := do
  match s with
  | .empty | .caseLabel _ => return .normal none
  | .expr e => return .normal (some (← m.expr ctx e))
  | .var p e =>
    let v ← match plainName? p with
      | some n => m.named ctx n e
      | none => m.expr ctx e
    m.bind ctx .assign p v
    return .normal none
  | .declare p e =>
    let v ← match e with
      | none => pure .undefined
      | some e =>
        match plainName? p with
        | some n => m.named ctx n e
        | none => m.expr ctx e
    m.bind ctx .introduce p v
    return .normal none
  | .several decls => m.runList ctx none decls
  | .functionPlace n =>
    m.bringOutward ctx n
    return .normal none
  | .classDecl c =>
    let v ← m.makeClass ctx c
    match c with
    | .mk name .. => introduceName ctx name v
    return .normal none
  | .block b => m.runBlock ctx b
  | .ifElse test yes no =>
    let c ← if (← m.expr ctx test).truthy then m.stmt ctx [] yes else m.stmt ctx [] no
    return c.orUndefined
  | .forLoop start test update body captures => m.runFor ctx labels start test update body captures
  | .forIn head object body => m.runForIn ctx labels head object body
  | .forOf head object body => m.runForOf ctx labels head object body
  | .whileLoop test body =>
    m.runLoop labels body (fun () => do
      m.tick
      return if (← m.expr ctx test).truthy then some (ctx, ()) else none) (fun _ => pure ()) ()
  | .doWhile body test =>
    m.runLoop labels body (fun (first : Bool) => do
      if first then return some (ctx, false)
      m.tick
      return if (← m.expr ctx test).truthy then some (ctx, false) else none)
      (fun (_, s) => pure s) true
  | .continueTo label => return .continueTo label none
  | .breakTo label => return .breakTo label none
  | .returnWith e =>
    match e with
    | some e => return .returned (← m.expr ctx e)
    | none => return .returned .undefined
  | .throw e => raise (← m.expr ctx e)
  | .tryCatch body param handler final => m.runTry ctx body param handler final
  | .switch e cases =>
    let v ← m.expr ctx e
    let inner ← enterBlock ctx cases
    makeFunctions inner cases
    let rest ← m.caseFor inner v cases.body cases.body
    match ← m.runList inner none rest with
    | .breakTo none u => return .normal (some (u.getD .undefined))
    | c => return c.orUndefined
  | .labelled label body =>
    match ← m.stmt ctx (label :: labels) body with
    | .breakTo (some n) u =>
      if n == label then return .normal u else return .breakTo (some n) u
    | c => return c

end Machine

end Extraction.Script
