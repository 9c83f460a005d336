import Extraction.Script.Evaluate.Function

/-!
# The objects that are there before a script begins

## Main definitions

* `World.initial`: the state before a script begins
-/

namespace Extraction.Script

namespace Realm

open Run

/-- The object of a function that is there before a script begins. -/
def makeBuiltin (b : Builtin) (name : String) (arity : Nat) : Run Ref :=
  alloc
    { proto := some Intrinsic.function.ref
      extensible := true
      kind := .builtin b
      table := functionTable (Utf16.ofWord name) arity }

/-- Gives an object a method. -/
def addMethod (r : Ref) (b : Builtin) (name : String) (arity : Nat) : Run Unit := do
  let f ← makeBuiltin b name arity
  defineProperty r (.word name) (.hidden (.object f))

/-- Gives an object methods. -/
def addMethods {α : Type} (r : Ref) (wrap : α → Builtin) (table : List (α × String × Nat)) :
    Run Unit := do
  for (f, name, arity) in table do
    addMethod r (wrap f) name arity

/-- Gives an object a value that is worked out when it is asked for. -/
def addGetter (r : Ref) (b : Builtin) (name : String) : Run Unit := do
  let f ← makeBuiltin b ("get " ++ name) 0
  defineProperty r (.word name) ⟨.accessor (some f) none, false, true⟩

/-- Gives an object the tag that its text shows. -/
def addTag (r : Ref) (tag : String) : Run Unit :=
  defineProperty r WellKnown.toStringTag.key (.readOnly (.word tag))

/-- Makes a property of the global object. -/
def addGlobal (name : String) (v : Value) : Run Unit :=
  defineProperty Intrinsic.global.ref (.word name) (.hidden v)

/-- Makes a constructor for the objects that have a given parent. -/
def addMaker (f : Maker) (proto : Ref) : Run Ref := do
  let r ← makeBuiltin (.maker f) f.name f.arity
  defineProperty r (.word "prototype") (.constant (.object proto))
  defineProperty proto (.word "constructor") (.hidden (.object r))
  addGlobal f.name (.object r)
  return r

/-- The objects at fixed places, still without properties. -/
def fixedObjects : List Object :=
  let child (kind : Kind) : Object := ⟨some Intrinsic.object.ref, true, kind, .empty⟩
  [⟨none, true, .ordinary, .empty⟩,
    { child (.builtin (.functionMethod .nothing)) with table := functionTable #[] 0 },
    child (.array #[] 0), child (.wrapper (.string #[])), child (.wrapper (.float 0.0)),
    child (.wrapper (.bool false)), child .ordinary, child .ordinary, child .ordinary,
    child .ordinary, child .ordinary, child .ordinary, child .ordinary,
    ⟨some Intrinsic.function.ref, true, .builtin (.arrayMethod .values),
      functionTable (Utf16.ofWord "values") 0⟩,
    ⟨some Intrinsic.function.ref, true, .builtin (.maker .regexp),
      functionTable (Utf16.ofWord "RegExp") 2⟩] ++
  ErrorClass.all.map fun c =>
    if c == .error then child .ordinary
    else ⟨some (Intrinsic.error .error).ref, true, .ordinary, .empty⟩

/-- Sets up objects and functions. -/
def addBasics : Run Unit := do
  let object := Intrinsic.object.ref
  let maker ← addMaker .object object
  addMethods maker .objectFunction ObjectFunction.table
  addMethods object .objectMethod ObjectMethod.table
  let getProto ← makeBuiltin (.objectMethod .getProto) "get __proto__" 0
  let setProto ← makeBuiltin (.objectMethod .setProto) "set __proto__" 1
  defineProperty object (.word "__proto__") ⟨.accessor (some getProto) (some setProto), false, true⟩
  let function := Intrinsic.function.ref
  let _ ← addMaker .function function
  addMethods function .functionMethod FunctionMethod.table
  let hasInstance ← makeBuiltin (.functionMethod .hasInstance) "[Symbol.hasInstance]" 1
  defineProperty function WellKnown.hasInstance.key (.constant (.object hasInstance))

/-- Sets up symbols. -/
def addSymbols : Run Unit := do
  let proto := Intrinsic.symbol.ref
  let maker ← addMaker .symbol proto
  for (s, name) in WellKnown.table do
    defineProperty maker (.word name) (.constant (.symbol s.id))
  addMethods proto .symbolMethod PlainMethod.table
  addGetter proto (.symbolMethod .description) "description"
  addTag proto "Symbol"
  let toPrimitive ← makeBuiltin (.symbolMethod .valueOf) "[Symbol.toPrimitive]" 1
  defineProperty proto WellKnown.toPrimitive.key (.readOnly (.object toPrimitive))

/-- Sets up arrays and iterators. -/
def addArrays : Run Unit := do
  let proto := Intrinsic.array.ref
  let maker ← addMaker .array proto
  addMethods maker .arrayFunction ArrayFunction.table
  addMethods proto .arrayMethod (ArrayMethod.table.filter fun (f, _) => f != .values)
  let values := Value.object Intrinsic.arrayValues.ref
  defineProperty proto (.word "values") (.hidden values)
  defineProperty proto WellKnown.iterator.key (.hidden values)
  let iterator := Intrinsic.iterator.ref
  addMethod iterator .iteratorNext "next" 0
  let itself ← makeBuiltin .itself "[Symbol.iterator]" 0
  defineProperty iterator WellKnown.iterator.key (.hidden (.object itself))
  addTag iterator "Array Iterator"

/-- Sets up strings and regular expressions. -/
def addStrings : Run Unit := do
  let proto := Intrinsic.string.ref
  let maker ← addMaker .string proto
  addMethods maker .stringFunction StringFunction.table
  addMethods proto .stringMethod StringMethod.table
  for (second, name) in [("trimLeft", "trimStart"), ("trimRight", "trimEnd")] do
    match ← ownProperty? proto (.word name) with
    | some p => defineProperty proto (.word second) p
    | none => pure ()
  let iterator ← makeBuiltin (.stringMethod .iterator) "[Symbol.iterator]" 0
  defineProperty proto WellKnown.iterator.key (.hidden (.object iterator))
  let regexp := Intrinsic.regexp.ref
  let maker := Intrinsic.regexpMaker.ref
  defineProperty maker (.word "prototype") (.constant (.object regexp))
  defineProperty regexp (.word "constructor") (.hidden (.object maker))
  addGlobal "RegExp" (.object maker)
  addMethods regexp .regexpMethod RegexpMethod.table
  for (f, name) in RegexpTrait.table do
    addGetter regexp (.regexpTrait f) name

/-- Sets up numbers and other plain values. -/
def addNumbers : Run Unit := do
  let proto := Intrinsic.number.ref
  let maker ← addMaker .number proto
  addMethods maker .numberFunction NumberFunction.table
  addMethods proto .numberMethod NumberMethod.table
  let constants : List (String × Float) :=
    [("EPSILON", 2.220446049250313e-16), ("MAX_SAFE_INTEGER", 9007199254740991.0),
      ("MAX_VALUE", 1.7976931348623157e308), ("MIN_SAFE_INTEGER", -9007199254740991.0),
      ("MIN_VALUE", 5e-324), ("NEGATIVE_INFINITY", -Number.infinity),
      ("NaN", 0.0 / 0.0), ("POSITIVE_INFINITY", Number.infinity)]
  for (name, x) in constants do
    defineProperty maker (.word name) (.constant (.float x))
  addMethods Intrinsic.global.ref .global GlobalFunction.table
  for name in ["parseFloat", "parseInt"] do
    match ← ownProperty? Intrinsic.global.ref (.word name) with
    | some p => defineProperty maker (.word name) p
    | none => pure ()
  let _ ← addMaker .boolean Intrinsic.boolean.ref
  addMethods Intrinsic.boolean.ref .booleanMethod PlainMethod.table
  let _ ← addMaker .bigint Intrinsic.bigint.ref
  addMethods Intrinsic.bigint.ref .bigintMethod PlainMethod.table
  addTag Intrinsic.bigint.ref "BigInt"

/-- Sets up mathematics and JSON. -/
def addSingletons : Run Unit := do
  let math ← newObject Intrinsic.object.ref .ordinary
  let constants : List (String × Float) :=
    [("E", 2.718281828459045), ("LN10", 2.302585092994046), ("LN2", 0.6931471805599453),
      ("LOG10E", 0.4342944819032518), ("LOG2E", 1.4426950408889634), ("PI", 3.141592653589793),
      ("SQRT1_2", 0.7071067811865476), ("SQRT2", 1.4142135623730951)]
  for (name, x) in constants do
    defineProperty math (.word name) (.constant (.float x))
  addMethods math .math MathFunction.table
  addTag math "Math"
  addGlobal "Math" (.object math)
  let json ← newObject Intrinsic.object.ref .ordinary
  addMethods json .json JsonFunction.table
  addTag json "JSON"
  addGlobal "JSON" (.object json)

/-- Sets up maps and sets. -/
def addCollections : Run Unit := do
  let map := Intrinsic.map.ref
  let _ ← addMaker .map map
  addMethods map .mapMethod CollectionMethod.mapTable
  addGetter map (.mapMethod .size) "size"
  addTag map "Map"
  match ← ownProperty? map (.word "entries") with
  | some p => defineProperty map WellKnown.iterator.key p
  | none => pure ()
  let set := Intrinsic.set.ref
  let _ ← addMaker .set set
  addMethods set .setMethod CollectionMethod.setTable
  addGetter set (.setMethod .size) "size"
  addTag set "Set"
  match ← ownProperty? set (.word "values") with
  | some p => defineProperty set WellKnown.iterator.key p
  | none => pure ()

/-- Sets up errors: the special classes descend from the general one. -/
def addErrors : Run Unit := do
  let base ← addMaker (.error .error) (Intrinsic.error .error).ref
  addMethod (Intrinsic.error .error).ref .errorToString "toString" 0
  for c in ErrorClass.all do
    let proto := (Intrinsic.error c).ref
    if c != .error then
      let maker ← addMaker (.error c) proto
      modifyObject maker fun o => { o with proto := some base }
    defineProperty proto (.word "name") (.hidden (.word c.name))
    defineProperty proto (.word "message") (.hidden (.string #[]))

/-- Sets up what the host offers, by itself and under one roof. -/
def addHost : Run Unit := do
  addMethods Intrinsic.global.ref .host HostFunction.table
  let roof ← newObject Intrinsic.object.ref .ordinary
  let members := [("getVariable", "getVariable"), ("putVariable", "putVariable"),
    ("get", "getVariable"), ("put", "putVariable"), ("ajax", "ajax"),
    ("base64Encode", "base64Encode"), ("base64Decode", "base64Decode"),
    ("unescapeHtml3", "unescapeHtml3"), ("unescapeHtml4", "unescapeHtml4"),
    ("formatHtml", "formatHtml")]
  for (name, source) in members do
    match ← ownProperty? Intrinsic.global.ref (.word source) with
    | some ⟨.data v _, _, _⟩ => put roof (.word name) v
    | _ => pure ()
  defineProperty Intrinsic.global.ref (.word "java") ⟨.data (.object roof) true, true, false⟩

/-- Sets up everything. -/
def addAll : Run Unit := do
  addBasics
  addSymbols
  addArrays
  addStrings
  addNumbers
  addSingletons
  addCollections
  addErrors
  defineProperty Intrinsic.global.ref (.word "undefined") (.constant .undefined)
  defineProperty Intrinsic.global.ref (.word "NaN") (.constant (.number Number.nan))
  defineProperty Intrinsic.global.ref (.word "Infinity") (.constant (.float Number.infinity))
  addGlobal "globalThis" (.object Intrinsic.global.ref)
  addHost

/-- The state with the objects at fixed places alone. The script counts as one call. -/
def bare : World :=
  { objects := fixedObjects.toArray
    scopes := #[⟨none, #[], none, true⟩]
    symbols := (WellKnown.table.map fun (_, name) =>
      some (Utf16.ofWord ("Symbol." ++ name))).toArray
    vars := .empty
    frames := 1
    loops := 0
    joining := [] }

end Realm

/-- The state before a script begins. -/
def World.initial : World :=
  match Realm.addAll Realm.bare with
  | .ok () w => w
  | .error _ w => w

end Extraction.Script
