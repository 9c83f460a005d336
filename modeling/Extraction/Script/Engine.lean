import Extraction.Json.Printer
import Extraction.Script.Evaluate.Statement
import Extraction.Script.Library.Maker
import Extraction.Script.Parser.Statement
import Extraction.Script.Realm

/-!
# Running scripts

A script is given a JSON value under the name `result` and leaves behind the value of its last
statement. What it does with the variables of the session stays done when it fails.

## Main definitions

* `machine`: the parts of evaluation tied together, up to a depth
* `Value.toJson`, `Json.toValue`: values that come and go
* `Script.eval`: runs a script
-/

namespace Extraction.Script

namespace Machine

open Run

/-- Calls a function. -/
def callValue (m : Machine) (f self : Value) (args : Array Value) : Run Value := do
  match f with
  | .object r =>
    match (← objectAt r).kind with
    | .closure c => m.callClosure r c self args
    | .builtin b =>
      if m.settings.recursionLimit ≤ (← MonadState.get).frames then throw .limit
      m.runBuiltin b self args none
    | .bound target self bound => m.call (.object target) self (bound ++ args)
    | _ => failType "not a callable function"
  | _ => failType "not a callable function"

/-- Has a function make an object. -/
def constructValue (m : Machine) (r : Ref) (args : Array Value) (newTarget : Ref) : Run Value := do
  match (← objectAt r).kind with
  | .closure c => m.constructClosure r c args newTarget
  | .builtin b =>
    if m.settings.recursionLimit ≤ (← MonadState.get).frames then throw .limit
    m.runBuiltin b .undefined args (some newTarget)
  | .bound target _ bound =>
    m.construct target (bound ++ args) (if newTarget == r then target else newTarget)
  | _ => failType "not a constructor"

/-- Makes room for what a script declares: its variables and functions are properties of the global
object, the other names belong to the script. -/
def declareProgram (b : Block) : Run Unit := do
  let global := Intrinsic.global.ref
  let known := (← scopeAt 0).names.map Prod.fst
  for (n, _) in b.lexical do
    let fixed ← match ← ownProperty? global (.name n) with
      | some p => pure !p.configurable
      | none => pure false
    if known.contains n || fixed then
      fail .grammar ("redeclaration of '".toList ++ n.toText ++ ['\''])
  for n in b.vars ++ b.functions.map Function.name do
    if known.contains n then fail .grammar ("redeclaration of '".toList ++ n.toText ++ ['\''])
  for f in b.functions do
    match ← ownProperty? global (.name f.name) with
    | some ⟨.data _ writable, enumerable, false⟩ =>
      if !(writable && enumerable) then failType "cannot define global function"
    | _ => pure ()
  modifyScope 0 fun s =>
    { s with names := s.names ++
        (b.lexical.map fun (n, constant) => (n, Scope.waiting constant)).toArray }
  for f in b.functions do
    let r ← makeFunction ⟨0, f.strict⟩ f none
    match ← ownProperty? global (.name f.name) with
    | some ⟨content, enumerable, false⟩ =>
      match content with
      | .data _ w => defineProperty global (.name f.name) ⟨.data (.object r) w, enumerable, false⟩
      | _ => pure ()
    | _ => defineProperty global (.name f.name) ⟨.data (.object r) true, true, false⟩
  for n in b.vars do
    if (← ownProperty? global (.name n)).isNone then
      defineProperty global (.name n) ⟨.data .undefined true, true, false⟩

/-- Runs the text of a script. -/
def runScript (m : Machine) (text : Text) : Run Value := do
  match Program.parse? text with
  | none => fail .grammar "unexpected token".toList
  | some p =>
    declareProgram p.block
    match ← m.runList ⟨0, p.strict⟩ none p.block.body with
    | .normal (some v) => return v
    | _ => return .undefined

end Machine

/-- The parts of evaluation tied together, to a depth of nesting beyond which a limit is reported. -/
def machine (settings : Settings) : (depth : Nat) → Machine
  | 0 =>
    { settings
      expr := fun _ _ => throw .limit
      stmt := fun _ _ _ => throw .limit
      bind := fun _ _ _ _ => throw .limit
      call := fun _ _ _ => throw .limit
      construct := fun _ _ _ => throw .limit
      script := fun _ => throw .limit }
  | depth + 1 =>
    { settings
      expr := fun ctx e w => (machine settings depth).evaluate ctx e w
      stmt := fun ctx labels s w => (machine settings depth).execute ctx labels s w
      bind := fun ctx mode p v w => (machine settings depth).bindPattern ctx mode p v w
      call := fun f self args w => (machine settings depth).callValue f self args w
      construct := fun r args newTarget w =>
        (machine settings depth).constructValue r args newTarget w
      script := fun text w => (machine settings depth).runScript text w }

/-! ### Values that come and go -/

/-- A number of JSON for a script. -/
def numberOfJson : Json.Number → Number
  | .int n => Number.ofInt n
  | .float x => .float x

mutual

/-- The value of a script for a JSON value. -/
def valueOfJson : Json → Run Value
  | .null => return .null
  | .bool b => return .bool b
  | .num n => return .number (numberOfJson n)
  | .str s => return .text s
  | .arr items => do Run.newArray (← valuesOfJson #[] items)
  | .obj members => do
    let r ← Run.newObject Intrinsic.object.ref .ordinary
    fillFromJson r members
    return .object r

/-- The values of a script for JSON values. -/
def valuesOfJson (acc : Array Value) : List Json → Run (Array Value)
  | [] => return acc
  | j :: rest => do
    let v ← valueOfJson j
    valuesOfJson (acc.push v) rest

/-- Gives an object members. -/
def fillFromJson (r : Ref) : List (Text × Json) → Run Unit
  | [] => pure ()
  | (k, j) :: rest => do
    let v ← valueOfJson j
    Run.put r (.name (Utf16.ofText k)) v
    fillFromJson r rest

end

/-- Why a value of a script is no JSON value: there is no such kind of value, or an array or an object
holds undefined. -/
inductive Inexpressible where
  | kind
  | holdsUndefined

/-- The JSON value of a number of a script; null if it is not finite. -/
def jsonOfNumber (n : Number) : Json :=
  match n with
  | .int n => .num (.int n)
  | .float x => if Number.isFinite x then .num (.float x) else .null

/-- The JSON value of a value of a script, read without running anything: all properties of an object
count, and what has to be worked out is null. -/
def jsonOfValue (w : World) : (depth : Nat) → Value → Except Inexpressible Json
  | _, .undefined => .error .holdsUndefined
  | _, .null => .ok .null
  | _, .bool b => .ok (.bool b)
  | _, .number n => .ok (jsonOfNumber n)
  | _, .string s => .ok (.str s.toText)
  | _, .bigint _ => .error .kind
  | _, .symbol _ => .error .kind
  | 0, .object _ => .error .kind
  | depth + 1, .object r =>
    let o := w.objects.getD r Run.noObject
    let stored (p : Option Property) : Except Inexpressible Json :=
      match p with
      | some ⟨.data v _, _, _⟩ => jsonOfValue w depth v
      | _ => .ok .null
    match o.kind with
    | .array items length => do
      let values ← (List.range length).mapM fun i =>
        match (items[i]?).join with
        | some v => jsonOfValue w depth v
        | none => stored (o.table.find? (.nat i))
      return .arr values
    | kind => do
      let length := match kind with
        | .wrapper (.string s) => [("length".toList, Json.num (.int s.size))]
        | _ => []
      let members ← o.table.keys.mapM fun k => do
        match k with
        | .name n => return (n.toText, ← stored (o.table.find? k))
        | .symbol _ => throw .kind
      return Json.ofMembers (length ++ members)

/-! ### Failures -/

/-- The value under a key of an object or of the first parent that has one, among `fuel` objects. -/
def inherited? (w : World) (k : PropertyKey) : (fuel : Nat) → Ref → Option Value
  | 0, _ => none
  | fuel + 1, r =>
    let o := w.objects.getD r Run.noObject
    match o.table.find? k with
    | some ⟨.data v _, _, _⟩ => some v
    | some _ => none
    | none =>
      match o.proto with
      | some p => inherited? w k fuel p
      | none => none

/-- The text of a value that says something of an error. -/
def wordOf (v : Option Value) (missing : Text) : Text :=
  match v with
  | none => missing
  | some (.string s) => s.toText
  | some (.number n) => n.toText
  | some (.bool b) => (if b then "true" else "false").toList
  | some .null => "null".toList
  | some .undefined => "undefined".toList
  | some (.bigint n) => Text.ofInt n ++ ['n']
  | some (.symbol _) => "Symbol()".toList
  | some (.object _) => "\x7b \x7d".toList

/-- The text of an error: its name and its message. -/
def errorTextOf (w : World) (r : Ref) : Text :=
  let fuel := w.objects.size + 1
  let name := wordOf (inherited? w (.word "name") fuel r) "<error>".toList
  let message := wordOf (inherited? w (.word "message") fuel r) []
  if name.isEmpty then message
  else if message.isEmpty then name
  else name ++ ": ".toList ++ message

/-- The special kinds of errors as failures call them. -/
def specialKinds : List Text :=
  Text.words ("TypeError SyntaxError ReferenceError RangeError EvalError UriError " ++
    "AggregateError").toList

/-- The failure of a script that throws a value. Errors about addresses are of a special kind only if
the program has not seen them. -/
def faultOf (w : World) (v : Value) : ScriptFault :=
  match v with
  | .object r =>
    match (w.objects.getD r Run.noObject).kind with
    | .error fresh =>
      let text := errorTextOf w r
      match "Error: ".toList.isPrefixOf? text with
      | some message => .error message
      | none =>
        let name := text.takeWhile (· != ':')
        let name := if fresh && name == "URIError".toList then "UriError".toList else name
        if specialKinds.contains name then .kind name else .other
    | _ => .other
  | _ => .other

end Extraction.Script

namespace Extraction

open Script

/-- How much deeper than the calls the parts of a program may nest, per character of its text. -/
def Script.depthFor (settings : Settings) (script : Text) : Nat :=
  (settings.recursionLimit + 2) * (script.length + 1000)

/-- Runs a script with a value under the name `result`, the base address of the session under the
name `baseUrl`, and the variables of the session. The variables that it leaves behind are there also
when it fails. -/
def Script.eval (settings : Settings) (script : Text) (seed : Json) (vars : Variables) :
    Except RuleError Json × Variables :=
  let m := machine settings (Script.depthFor settings script)
  let run : Run Value := do
    let result ← valueOfJson seed
    Run.put Intrinsic.global.ref (.word "result") result
    let base := (settings.host.baseUrl.map Value.text).getD .null
    Run.put Intrinsic.global.ref (.word "baseUrl") base
    m.runScript script
  match run { World.initial with vars } with
  | .error .limit w => (.error (.script .limit), w.vars)
  | .error .skip w => (.error (.script .other), w.vars)
  | .error (.thrown v) w => (.error (.script (faultOf w v)), w.vars)
  | .ok .undefined w => (.ok .null, w.vars)
  | .ok v w =>
    match jsonOfValue w (w.objects.size + 1) v with
    | .ok j => (.ok j, w.vars)
    | .error .kind => (.error (.script (.kind "TypeError".toList)), w.vars)
    | .error .holdsUndefined => (.error (.script .unconvertible), w.vars)

end Extraction
