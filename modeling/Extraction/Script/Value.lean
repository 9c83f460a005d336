import Extraction.Script.Builtin
import Extraction.Script.Regexp.Basic
import Extraction.Script.Syntax
import Extraction.Session.Variables
import Std.Data.HashMap

/-!
# Values, objects and scopes

A value is plain or refers to an object. Objects and scopes live in the state of a running script,
`World`, and are referred to by their numbers there.

## Main definitions

* `Value`: the values
* `Object`, `Property`, `PropertyTable`: objects and what they hold
* `Scope`: the names that are known in a stretch of a program
* `World`: the state of a running script
* `Run`: what a script does: it changes the state and gives a value, or breaks off
-/

namespace Extraction.Script

/-- The number of an object. -/
abbrev Ref := Nat

/-- A value. -/
inductive Value where
  | undefined
  | null
  | bool (b : Bool)
  | number (n : Number)
  | bigint (n : Int)
  | string (s : Utf16)
  | symbol (id : Nat)
  | object (r : Ref)

namespace Value

/-- The string of a fixed word. -/
def word (s : String) : Value := .string (Utf16.ofWord s)

/-- The string of a text. -/
def text (s : Text) : Value := .string (Utf16.ofText s)

/-- The number of a natural number. -/
def nat (n : Nat) : Value := .number (Number.ofNat n)

/-- The number of a double. -/
def float (x : Float) : Value := .number (.float x)

/-- Whether the value is undefined or null. -/
def isNullish : Value → Bool
  | undefined | null => true
  | _ => false

/-- Whether the value is undefined. -/
def isUndefined : Value → Bool
  | undefined => true
  | _ => false

end Value

/-- The key of a property. -/
inductive PropertyKey where
  | name (s : Name)
  | symbol (id : Nat)
  deriving DecidableEq

/-- The hash of a key. -/
instance : Hashable PropertyKey where
  hash
    | .name s => mixHash 7 (hash s)
    | .symbol id => mixHash 11 (hash id)

namespace PropertyKey

/-- The key of a fixed word. -/
def word (s : String) : PropertyKey := .name (Utf16.ofWord s)

/-- The key of a position. -/
def nat (n : Nat) : PropertyKey := .name (Utf16.ofText (Text.ofNat n))

/-- The value of a key. -/
def toValue : PropertyKey → Value
  | name s => .string s
  | symbol id => .symbol id

/-- The position that a name writes in its shortest form, below `2 ^ 32 - 1`. -/
def positionOf? (s : Name) : Option Nat :=
  if s.isEmpty || 10 < s.size then none
  else if s[0]? == some 48 then (if s.size == 1 then some 0 else none)
  else if s.all fun u => 48 ≤ u && u ≤ 57 then
    let n := s.foldl (fun acc u => acc * 10 + (u.toNat - 48)) 0
    if n < 4294967295 then some n else none
  else none

/-- The position that a key writes. -/
def position? : PropertyKey → Option Nat
  | name s => positionOf? s
  | symbol _ => none

end PropertyKey

/-- The symbols that have a meaning of their own. -/
inductive WellKnown where
  | iterator
  | hasInstance
  | toPrimitive
  | toStringTag

namespace WellKnown

/-- The number of a symbol. -/
def id : WellKnown → Nat
  | iterator => 0
  | hasInstance => 1
  | toPrimitive => 2
  | toStringTag => 3

/-- The symbols with their names. -/
def table : List (WellKnown × String) :=
  [(iterator, "iterator"), (hasInstance, "hasInstance"), (toPrimitive, "toPrimitive"),
    (toStringTag, "toStringTag")]

/-- The key of a symbol. -/
def key (s : WellKnown) : PropertyKey := .symbol s.id

end WellKnown

/-- What is under a key: a value, or functions that get and set it. -/
inductive Content where
  | data (v : Value) (writable : Bool)
  | accessor (getter setter : Option Ref)

/-- A property. -/
structure Property where
  content : Content
  enumerable : Bool
  configurable : Bool

namespace Property

/-- A property as an assignment makes it. -/
def plain (v : Value) : Property := ⟨.data v true, true, true⟩

/-- A property that loops over keys pass over. -/
def hidden (v : Value) : Property := ⟨.data v true, false, true⟩

/-- A property that cannot be written to but be defined anew. -/
def readOnly (v : Value) : Property := ⟨.data v false, false, true⟩

/-- A property that stays as it is. -/
def constant (v : Value) : Property := ⟨.data v false, false, false⟩

end Property

/-- Properties in the order in which they came. -/
structure PropertyTable where
  index : Std.HashMap PropertyKey Nat
  entries : Array (Option (PropertyKey × Property))

namespace PropertyTable

/-- No properties. -/
def empty : PropertyTable := ⟨∅, #[]⟩

/-- The property under a key. -/
def find? (t : PropertyTable) (k : PropertyKey) : Option Property :=
  match t.index[k]? with
  | some i => (t.entries[i]?).join.map Prod.snd
  | none => none

/-- The table with a property put under a key. -/
def insert (t : PropertyTable) (k : PropertyKey) (p : Property) : PropertyTable :=
  match t.index[k]? with
  | some i => ⟨t.index, t.entries.set! i (some (k, p))⟩
  | none => ⟨t.index.insert k t.entries.size, t.entries.push (some (k, p))⟩

/-- The table without the property under a key. -/
def erase (t : PropertyTable) (k : PropertyKey) : PropertyTable :=
  match t.index[k]? with
  | some i => ⟨t.index.erase k, t.entries.set! i none⟩
  | none => t

/-- The keys in the order in which they came. -/
def keys (t : PropertyTable) : List PropertyKey :=
  t.entries.toList.filterMap fun e => e.map Prod.fst

/-- The table with every property changed. -/
def map (t : PropertyTable) (f : Property → Property) : PropertyTable :=
  ⟨t.index, t.entries.map fun e => e.map fun (k, p) => (k, f p)⟩

end PropertyTable

/-- A function of a program together with the scope it was made in. -/
structure Closure where
  code : Function
  scope : Nat
  /-- The object whose parent `super` looks into. -/
  home : Option Ref
  /-- What each new instance is given: the fields of a class with their keys. -/
  fields : List (PropertyKey × Option Ref)
  isClass : Bool

/-- What an object is, besides its properties. -/
inductive Kind where
  | ordinary
  /-- The items of an array as far as they are stored in a row, and its length. -/
  | array (items : Array (Option Value)) (length : Nat)
  | closure (c : Closure)
  | builtin (b : Builtin)
  | bound (target : Ref) (self : Value) (args : Array Value)
  /-- An error; one that no program has made or seen yet is `fresh`. -/
  | error (fresh : Bool)
  /-- An object around a plain value. -/
  | wrapper (v : Value)
  | regexp (source : Utf16) (r : Regexp)
  | map (entries : Array (Option (Value × Value)))
  | set (items : Array (Option Value))
  | arguments
  /-- What gives the items of an array one by one, or the values of a list. -/
  | arrayIterator (target : Value) (next : Nat) (keys values : Bool)
  | listIterator (values : Array Value) (next : Nat) (tag : String)

/-- An object. -/
structure Object where
  proto : Option Ref
  extensible : Bool
  kind : Kind
  table : PropertyTable

/-- A name of a scope: its value once it has one. -/
structure Binding where
  value : Option Value
  constant : Bool
  /-- Whether assignments are ignored rather than refused. -/
  quiet : Bool

/-- What a call brings along. -/
structure Activation where
  /-- None until the constructor of the parent has made the instance. -/
  self : Option Value
  callee : Ref
  newTarget : Option Ref
  home : Option Ref

/-- The names known in a stretch of a program, beside those of the scope around it. -/
structure Scope where
  outer : Option Nat
  names : Array (Name × Binding)
  /-- Present in the scope of a function that is no arrow function. -/
  activation : Option Activation
  /-- Whether variables belong to this scope. -/
  holdsVars : Bool

/-- The state of a running script. -/
structure World where
  objects : Array Object
  scopes : Array Scope
  /-- The descriptions of the symbols. -/
  symbols : Array (Option Utf16)
  vars : Variables
  /-- How many calls are under way, the script counting as one. -/
  frames : Nat
  /-- How often the loops of the present call have turned. -/
  loops : Nat
  /-- The arrays whose items are being joined. -/
  joining : List Ref

/-- Why a script breaks off. -/
inductive Abrupt where
  | thrown (v : Value)
  /-- A limit has been reached, which no handler sees. -/
  | limit
  /-- An optional part of a chain has nothing to go on with. -/
  | skip

/-- What a script does. -/
abbrev Run := EStateM Abrupt World

/-- The objects that are there before a script begins, at fixed places. -/
inductive Intrinsic where
  | object
  | function
  | array
  | string
  | number
  | boolean
  | symbol
  | bigint
  | regexp
  | map
  | set
  | iterator
  | error (c : ErrorClass)
  | global
  | arrayValues
  | regexpMaker

namespace Intrinsic

/-- The place of an object. -/
def ref : Intrinsic → Ref
  | object => 0
  | function => 1
  | array => 2
  | string => 3
  | number => 4
  | boolean => 5
  | symbol => 6
  | bigint => 7
  | regexp => 8
  | map => 9
  | set => 10
  | iterator => 11
  | global => 12
  | arrayValues => 13
  | regexpMaker => 14
  | error c =>
    match c with
    | .error => 15
    | .type => 16
    | .range => 17
    | .reference => 18
    | .grammar => 19
    | .eval => 20
    | .uri => 21
    | .aggregate => 22

/-- How many places are taken. -/
def count : Nat := 23

end Intrinsic

/-- What a statement leaves behind: it ends as usual, with a value perhaps, or goes elsewhere. -/
inductive Completion where
  | normal (v : Option Value)
  | breakTo (label : Option Name) (v : Option Value)
  | continueTo (label : Option Name) (v : Option Value)
  | returned (v : Value)

/-- Where a part of a program is evaluated. -/
structure Context where
  scope : Nat
  strict : Bool

namespace Run

/-- A new object. -/
def alloc (o : Object) : Run Ref :=
  modifyGet fun w => (w.objects.size, { w with objects := w.objects.push o })

/-- What stands where there is no object. -/
def noObject : Object := ⟨none, false, .ordinary, .empty⟩

/-- The object of a number. -/
def objectAt (r : Ref) : Run Object := do
  return (← get).objects.getD r noObject

/-- Changes an object. -/
def modifyObject (r : Ref) (f : Object → Object) : Run Unit :=
  modify fun w => { w with objects := w.objects.modify r f }

/-- A new object with a parent and nothing else. -/
def newObject (proto : Ref) (kind : Kind) : Run Ref := alloc ⟨some proto, true, kind, .empty⟩

/-- A new array. -/
def newArray (items : Array Value) : Run Value := do
  let r ← newObject Intrinsic.array.ref (.array (items.map some) items.size)
  return .object r

/-- Throws a value. -/
def raise {α : Type} (v : Value) : Run α := throw (.thrown v)

/-- A new error of a class. -/
def newError (c : ErrorClass) (message : Text) : Run Value := do
  let table := PropertyTable.empty.insert (.word "message") (.hidden (.text message))
  let r ← alloc ⟨some (Intrinsic.error c).ref, true, .error true, table⟩
  return .object r

/-- Throws an error of a class. -/
def fail {α : Type} (c : ErrorClass) (message : Text) : Run α := do raise (← newError c message)

/-- Throws an error about the type of something. -/
def failType {α : Type} (message : String) : Run α := fail .type message.toList

/-- A new scope. -/
def newScope (s : Scope) : Run Nat :=
  modifyGet fun w => (w.scopes.size, { w with scopes := w.scopes.push s })

/-- The scope of a number. -/
def scopeAt (i : Nat) : Run Scope := do
  return (← get).scopes.getD i ⟨none, #[], none, false⟩

/-- Changes a scope. -/
def modifyScope (i : Nat) (f : Scope → Scope) : Run Unit :=
  modify fun w => { w with scopes := w.scopes.modify i f }

end Run

end Extraction.Script
