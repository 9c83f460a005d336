import Extraction.Script.Evaluate.Function
import Extraction.Script.Library.Array
import Extraction.Script.Library.Collection
import Extraction.Script.Library.Json
import Extraction.Script.Library.Number
import Extraction.Script.Library.String

/-!
# Constructors, the host, and all functions together

## Main definitions

* `Machine.make`: what a constructor gives, called or asked for a new object
* `Machine.hostFunction`: what the host does for a script
* `Machine.runBuiltin`: the functions that are there before a script begins
-/

namespace Extraction.Script

namespace Machine

open Run

/-- The object that the objects of a constructor have for their parent. -/
def intrinsicOf : Maker → Intrinsic
  | .object => .object
  | .function => .function
  | .array => .array
  | .string => .string
  | .number => .number
  | .boolean => .boolean
  | .symbol => .symbol
  | .bigint => .bigint
  | .regexp => .regexp
  | .map => .map
  | .set => .set
  | .error c => .error c

/-- Gives an object the parent that its constructor asks for. -/
def adopt (v : Value) (proto : Ref) : Run Value := do
  match v with
  | .object r =>
    modifyObject r fun o => { o with proto := some proto }
    return v
  | v => return v

/-- Makes an error. -/
def makeError (m : Machine) (c : ErrorClass) (proto : Ref) (args : Array Value) : Run Value := do
  -- an error about several others has these for its first argument
  let first := if c == .aggregate then 1 else 0
  let message := argument args first
  let r ← newObject proto (.error false)
  if !message.isUndefined then
    let s ← m.toStr message
    defineProperty r (.word "message") (.hidden (.string s))
  match argument args (first + 1) with
  | .object o =>
    match ← property? o (.word "cause") with
    | some p => defineProperty r (.word "cause") (.hidden (← m.valueOf (.object o) (some p)))
    | none => pure ()
  | _ => pure ()
  if c == .aggregate then
    let errors ← m.itemsOf (argument args 0)
    defineProperty r (.word "errors") (.hidden (← newArray errors))
  return .object r

/-- The text of the function that `Function` makes of parameters and a body. -/
def functionText (params : List Utf16) (body : Utf16) : Text :=
  let list := match params with
    | [] => #[]
    | p :: rest => rest.foldl (fun acc q => (acc.push 44) ++ q) p
  "(function anonymous(".toList ++ Utf16.toText list ++ "\n) \x7b\n".toList ++ body.toText ++
    "\n\x7d)".toList

/-- What a constructor gives: called as a function, or asked for a new object on behalf of a
constructor. -/
def make (m : Machine) (f : Maker) (args : Array Value) (newTarget : Option Ref) : Run Value := do
  let a := argument args 0
  let proto ← match newTarget with
    | some t => m.prototypeFor t (intrinsicOf f)
    | none => pure (intrinsicOf f).ref
  -- a plain value, or an object around it if a new object is asked for
  let plain (v : Value) : Run Value :=
    match newTarget with
    | some _ => do return .object (← newObject proto (.wrapper v))
    | none => return v
  match f with
  | .object =>
    if proto != Intrinsic.object.ref then return .object (← newObject proto .ordinary)
    if a.isNullish then return .object (← newPlain) else return .object (← toObject a)
  | .function =>
    let texts ← args.toList.mapM m.toStr
    let params := texts.take (texts.length - 1)
    m.script (functionText params (texts.getLast?.getD #[]))
  | .array => adopt (← makeArray args) proto
  | .string =>
    if args.isEmpty then plain (.string #[])
    else
      match a, newTarget with
      | .symbol _, none => symbolMethod .toString a
      | a, _ => plain (.string (← m.toStr a))
  | .number =>
    if args.isEmpty then plain (.float 0.0)
    else
      match ← m.toNumeric a with
      | .number n => plain (.float n.toFloat)
      | .bigint n => plain (.float (Number.floatOfInt n))
  | .boolean => plain (.bool a.truthy)
  | .symbol =>
    if newTarget.isSome then failType "Symbol is not a constructor"
    let description ← if a.isUndefined then pure none else do
      let s ← m.toStr a
      pure (some s)
    modifyGet fun w => (.symbol w.symbols.size, { w with symbols := w.symbols.push description })
  | .bigint =>
    if newTarget.isSome then failType "BigInt is not a constructor"
    match ← m.toPrimitive .number a with
    | .bigint n => return .bigint n
    | .bool b => return .bigint (if b then 1 else 0)
    | .number n =>
      let x := n.toFloat
      if Number.isFinite x && x == x.floor then return .bigint (Number.truncate x)
      else fail .range "cannot convert to a BigInt because it is not an integer".toList
    | .string s =>
      match bigintOfText? s.toText with
      | some n => return .bigint n
      | none => fail .grammar "cannot parse a BigInt".toList
    | _ => failType "cannot convert to a BigInt"
  | .regexp =>
    match ← regexpOf? a, newTarget, (argument args 1).isUndefined with
    | some _, none, true => return a
    | _, _, _ => adopt (← m.newRegexp a (argument args 1)) proto
  | .map =>
    if newTarget.isNone then failType "calling a builtin Map constructor without new is forbidden"
    m.newMap proto a
  | .set =>
    if newTarget.isNone then failType "calling a builtin Set constructor without new is forbidden"
    m.newSet proto a
  | .error c => m.makeError c proto args

/-- The text of an error: its name and its message. -/
def errorText (m : Machine) (self : Value) : Run Value := do
  match self with
  | .object _ =>
    let name ← m.getWord self "name"
    let name ← if name.isUndefined then pure (Utf16.ofWord "Error") else m.toStr name
    let message ← m.getWord self "message"
    let message ← if message.isUndefined then pure #[] else m.toStr message
    if name.isEmpty then return .string message
    else if message.isEmpty then return .string name
    else return .string (name ++ Utf16.ofWord ": " ++ message)
  | _ => failType "'this' is not an Object"

/-- What the host does for a script. All arguments are made texts first; what is missing is empty. A
failure of the host is an error of the script. -/
def hostFunction (m : Machine) (f : HostFunction) (args : Array Value) : Run Value := do
  let texts ← args.toList.mapM m.toText
  let a := texts.getD 0 []
  let b := texts.getD 1 []
  let orFail (r : Except RuleError Text) : Run Value := do
    match r with
    | .ok t => return .text t
    | .error e => fail .error e.message
  match f with
  | .getVariable => return .text ((← MonadState.get).vars.get a)
  | .putVariable =>
    modify fun w => { w with vars := w.vars.put a b }
    return .text b
  | .ajax => orFail (m.settings.host.ajax a)
  | .base64Encode => return .text (Host.base64Encode a)
  | .base64Decode => orFail (Host.base64Decode a)
  | .unescapeHtml3 => return .text (Markup.unescapeBasic a)
  | .unescapeHtml4 => return .text (Markup.unescape a)
  | .formatHtml => return .text (Markup.paragraphs a)

/-- Runs a function that is there before a script begins. -/
def runBuiltin (m : Machine) (b : Builtin) (self : Value) (args : Array Value)
    (newTarget : Option Ref) : Run Value := do
  match b with
  | .maker f => m.make f args newTarget
  | b =>
    if newTarget.isSome then failType "not a constructor"
    match b with
    | .host f => m.hostFunction f args
    | .global f => m.globalFunction f args
    | .objectFunction f => m.objectFunction f args
    | .objectMethod f => m.objectMethod f self args
    | .functionMethod f => m.functionMethod f self args
    | .arrayFunction f => m.arrayFunction f args
    | .arrayMethod f => m.arrayMethod f self args
    | .stringFunction f => m.stringFunction f args
    | .stringMethod f => m.stringMethod f self args
    | .numberFunction f => return numberFunction f args
    | .numberMethod f => m.numberMethod f self args
    | .booleanMethod f => booleanMethod f self
    | .symbolMethod f => symbolMethod f self
    | .bigintMethod f => m.bigintMethod f self args
    | .errorToString => m.errorText self
    | .math f => m.mathFunction f args
    | .json .parse => m.parseJson args
    | .json .stringify => m.stringifyJson args
    | .regexpMethod f => m.regexpMethod f self args
    | .regexpTrait f => m.regexpTrait f self
    | .mapMethod f => m.mapMethod f self args
    | .setMethod f => m.setMethod f self args
    | .iteratorNext => m.iteratorNext self
    | .itself => return self
    | .maker _ => return .undefined

end Machine

end Extraction.Script
