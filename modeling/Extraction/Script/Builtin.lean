import Extraction.Script.Number

/-!
# The functions that scripts find

The functions that are there before a script begins, family by family. Each family has a table with
the names of its functions and how many arguments they expect.

## Main definitions

* `Builtin`: all functions
* `ErrorClass`: the classes of errors
-/

namespace Extraction.Script

/-- The classes of errors. -/
inductive ErrorClass where
  | error
  | type
  | range
  | reference
  | grammar
  | eval
  | uri
  | aggregate
  deriving DecidableEq

namespace ErrorClass

/-- All classes, the general one first. -/
def all : List ErrorClass := [error, type, range, reference, grammar, eval, uri, aggregate]

/-- The name of a class. -/
def name : ErrorClass → String
  | error => "Error"
  | type => "TypeError"
  | range => "RangeError"
  | reference => "ReferenceError"
  | grammar => "SyntaxError"
  | eval => "EvalError"
  | uri => "URIError"
  | aggregate => "AggregateError"

end ErrorClass

/-- Functions that make objects. -/
inductive Maker where
  | object
  | function
  | array
  | string
  | number
  | boolean
  | symbol
  | bigint
  | regexp
  | map
  | set
  | error (c : ErrorClass)
  deriving DecidableEq

namespace Maker

/-- The name. -/
def name : Maker → String
  | object => "Object"
  | function => "Function"
  | array => "Array"
  | string => "String"
  | number => "Number"
  | boolean => "Boolean"
  | symbol => "Symbol"
  | bigint => "BigInt"
  | regexp => "RegExp"
  | map => "Map"
  | set => "Set"
  | error c => c.name

/-- How many arguments are expected. -/
def arity : Maker → Nat
  | symbol | map | set => 0
  | regexp => 2
  | error .aggregate => 2
  | _ => 1

end Maker

/-- What the host offers. -/
inductive HostFunction where
  | getVariable
  | putVariable
  | ajax
  | base64Encode
  | base64Decode
  | unescapeHtml3
  | unescapeHtml4
  | formatHtml
  deriving DecidableEq

/-- The functions of the host with their names. -/
def HostFunction.table : List (HostFunction × String × Nat) :=
  [(.getVariable, "getVariable", 1), (.putVariable, "putVariable", 2), (.ajax, "ajax", 1),
    (.base64Encode, "base64Encode", 1), (.base64Decode, "base64Decode", 1),
    (.unescapeHtml3, "unescapeHtml3", 1), (.unescapeHtml4, "unescapeHtml4", 1),
    (.formatHtml, "formatHtml", 1)]

/-- Functions that stand by themselves. -/
inductive GlobalFunction where
  | parseInt
  | parseFloat
  | isNaN
  | isFinite
  | encodeUri
  | encodeUriComponent
  | decodeUri
  | decodeUriComponent
  | escape
  | unescape
  | eval
  deriving DecidableEq

/-- The functions that stand by themselves with their names. -/
def GlobalFunction.table : List (GlobalFunction × String × Nat) :=
  [(.parseInt, "parseInt", 2), (.parseFloat, "parseFloat", 1), (.isNaN, "isNaN", 1),
    (.isFinite, "isFinite", 1), (.encodeUri, "encodeURI", 1),
    (.encodeUriComponent, "encodeURIComponent", 1), (.decodeUri, "decodeURI", 1),
    (.decodeUriComponent, "decodeURIComponent", 1), (.escape, "escape", 1),
    (.unescape, "unescape", 1), (.eval, "eval", 1)]

/-- Functions on objects that belong to their maker. -/
inductive ObjectFunction where
  | assign
  | create
  | defineProperties
  | defineProperty
  | entries
  | freeze
  | fromEntries
  | getOwnPropertyDescriptor
  | getOwnPropertyDescriptors
  | getOwnPropertyNames
  | getOwnPropertySymbols
  | getPrototypeOf
  | groupBy
  | hasOwn
  | is
  | isExtensible
  | isFrozen
  | isSealed
  | keys
  | preventExtensions
  | seal
  | setPrototypeOf
  | values
  deriving DecidableEq

/-- The functions on objects with their names. -/
def ObjectFunction.table : List (ObjectFunction × String × Nat) :=
  [(.assign, "assign", 2), (.create, "create", 2), (.defineProperties, "defineProperties", 2),
    (.defineProperty, "defineProperty", 3), (.entries, "entries", 1), (.freeze, "freeze", 1),
    (.fromEntries, "fromEntries", 1), (.getOwnPropertyDescriptor, "getOwnPropertyDescriptor", 2),
    (.getOwnPropertyDescriptors, "getOwnPropertyDescriptors", 1),
    (.getOwnPropertyNames, "getOwnPropertyNames", 1),
    (.getOwnPropertySymbols, "getOwnPropertySymbols", 1), (.getPrototypeOf, "getPrototypeOf", 1),
    (.groupBy, "groupBy", 2), (.hasOwn, "hasOwn", 2), (.is, "is", 2),
    (.isExtensible, "isExtensible", 1), (.isFrozen, "isFrozen", 1), (.isSealed, "isSealed", 1),
    (.keys, "keys", 1), (.preventExtensions, "preventExtensions", 1), (.seal, "seal", 1),
    (.setPrototypeOf, "setPrototypeOf", 2), (.values, "values", 1)]

/-- Methods of all objects. -/
inductive ObjectMethod where
  | hasOwnProperty
  | isPrototypeOf
  | propertyIsEnumerable
  | toLocaleString
  | toString
  | valueOf
  | getProto
  | setProto
  deriving DecidableEq

/-- The methods of all objects with their names. -/
def ObjectMethod.table : List (ObjectMethod × String × Nat) :=
  [(.hasOwnProperty, "hasOwnProperty", 1), (.isPrototypeOf, "isPrototypeOf", 1),
    (.propertyIsEnumerable, "propertyIsEnumerable", 1), (.toLocaleString, "toLocaleString", 0),
    (.toString, "toString", 0), (.valueOf, "valueOf", 0)]

/-- Methods of functions. -/
inductive FunctionMethod where
  | apply
  | bind
  | call
  | toString
  | hasInstance
  /-- The function at the root of all functions, which does nothing. -/
  | nothing
  deriving DecidableEq

/-- The methods of functions with their names. -/
def FunctionMethod.table : List (FunctionMethod × String × Nat) :=
  [(.apply, "apply", 2), (.bind, "bind", 1), (.call, "call", 1), (.toString, "toString", 0)]

/-- Functions on arrays that belong to their maker. -/
inductive ArrayFunction where
  | isArray
  | of
  | copy
  deriving DecidableEq

/-- The functions on arrays with their names. -/
def ArrayFunction.table : List (ArrayFunction × String × Nat) :=
  [(.isArray, "isArray", 1), (.of, "of", 0), (.copy, "from", 1)]

/-- Methods of arrays. -/
inductive ArrayMethod where
  | at
  | concat
  | copyWithin
  | entries
  | every
  | fill
  | filter
  | find
  | findIndex
  | findLast
  | findLastIndex
  | flat
  | flatMap
  | forEach
  | includes
  | indexOf
  | join
  | keys
  | lastIndexOf
  | map
  | pop
  | push
  | reduce
  | reduceRight
  | reverse
  | shift
  | slice
  | some
  | sort
  | splice
  | toLocaleString
  | toReversed
  | toSorted
  | toSpliced
  | toString
  | unshift
  | values
  | withItem
  deriving DecidableEq

/-- The methods of arrays with their names. -/
def ArrayMethod.table : List (ArrayMethod × String × Nat) :=
  [(.at, "at", 1), (.concat, "concat", 1), (.copyWithin, "copyWithin", 2),
    (.entries, "entries", 0), (.every, "every", 1), (.fill, "fill", 1), (.filter, "filter", 1),
    (.find, "find", 1), (.findIndex, "findIndex", 1), (.findLast, "findLast", 1),
    (.findLastIndex, "findLastIndex", 1), (.flat, "flat", 0), (.flatMap, "flatMap", 1),
    (.forEach, "forEach", 1), (.includes, "includes", 1), (.indexOf, "indexOf", 1),
    (.join, "join", 1), (.keys, "keys", 0), (.lastIndexOf, "lastIndexOf", 1), (.map, "map", 1),
    (.pop, "pop", 0), (.push, "push", 1), (.reduce, "reduce", 1),
    (.reduceRight, "reduceRight", 1), (.reverse, "reverse", 0), (.shift, "shift", 0),
    (.slice, "slice", 2), (.some, "some", 1), (.sort, "sort", 1), (.splice, "splice", 2),
    (.toLocaleString, "toLocaleString", 0), (.toReversed, "toReversed", 0),
    (.toSorted, "toSorted", 1), (.toSpliced, "toSpliced", 2), (.toString, "toString", 0),
    (.unshift, "unshift", 1), (.values, "values", 0), (.withItem, "with", 2)]

/-- Functions on strings that belong to their maker. -/
inductive StringFunction where
  | fromCharCode
  | fromCodePoint
  | raw
  deriving DecidableEq

/-- The functions on strings with their names. -/
def StringFunction.table : List (StringFunction × String × Nat) :=
  [(.fromCharCode, "fromCharCode", 1), (.fromCodePoint, "fromCodePoint", 1), (.raw, "raw", 1)]

/-- Methods of strings. -/
inductive StringMethod where
  | at
  | charAt
  | charCodeAt
  | codePointAt
  | concat
  | endsWith
  | includes
  | indexOf
  | isWellFormed
  | lastIndexOf
  | localeCompare
  | matched
  | matchAll
  | normalize
  | padEnd
  | padStart
  | repeat
  | replace
  | replaceAll
  | search
  | slice
  | split
  | startsWith
  | substr
  | substring
  | toLocaleLowerCase
  | toLocaleUpperCase
  | toLowerCase
  | toString
  | toUpperCase
  | toWellFormed
  | trim
  | trimEnd
  | trimStart
  | valueOf
  | iterator
  deriving DecidableEq

/-- The methods of strings with their names. -/
def StringMethod.table : List (StringMethod × String × Nat) :=
  [(.at, "at", 1), (.charAt, "charAt", 1), (.charCodeAt, "charCodeAt", 1),
    (.codePointAt, "codePointAt", 1), (.concat, "concat", 1), (.endsWith, "endsWith", 1),
    (.includes, "includes", 1), (.indexOf, "indexOf", 1), (.isWellFormed, "isWellFormed", 0),
    (.lastIndexOf, "lastIndexOf", 1), (.localeCompare, "localeCompare", 1), (.matched, "match", 1),
    (.matchAll, "matchAll", 1), (.normalize, "normalize", 0), (.padEnd, "padEnd", 1),
    (.padStart, "padStart", 1), (.repeat, "repeat", 1), (.replace, "replace", 2),
    (.replaceAll, "replaceAll", 2), (.search, "search", 1), (.slice, "slice", 2),
    (.split, "split", 2), (.startsWith, "startsWith", 1), (.substr, "substr", 2),
    (.substring, "substring", 2), (.toLocaleLowerCase, "toLocaleLowerCase", 0),
    (.toLocaleUpperCase, "toLocaleUpperCase", 0), (.toLowerCase, "toLowerCase", 0),
    (.toString, "toString", 0), (.toUpperCase, "toUpperCase", 0),
    (.toWellFormed, "toWellFormed", 0), (.trim, "trim", 0), (.trimEnd, "trimEnd", 0),
    (.trimStart, "trimStart", 0), (.valueOf, "valueOf", 0)]

/-- Functions on numbers that belong to their maker. -/
inductive NumberFunction where
  | isFinite
  | isInteger
  | isNaN
  | isSafeInteger
  deriving DecidableEq

/-- The functions on numbers with their names. -/
def NumberFunction.table : List (NumberFunction × String × Nat) :=
  [(.isFinite, "isFinite", 1), (.isInteger, "isInteger", 1), (.isNaN, "isNaN", 1),
    (.isSafeInteger, "isSafeInteger", 1)]

/-- Methods of numbers. -/
inductive NumberMethod where
  | toExponential
  | toFixed
  | toLocaleString
  | toPrecision
  | toString
  | valueOf
  deriving DecidableEq

/-- The methods of numbers with their names. -/
def NumberMethod.table : List (NumberMethod × String × Nat) :=
  [(.toExponential, "toExponential", 1), (.toFixed, "toFixed", 1),
    (.toLocaleString, "toLocaleString", 0), (.toPrecision, "toPrecision", 1),
    (.toString, "toString", 1), (.valueOf, "valueOf", 0)]

/-- Methods that truth values, symbols and whole numbers beyond doubles have. -/
inductive PlainMethod where
  | toString
  | valueOf
  | description
  deriving DecidableEq

/-- The methods of plain values with their names. -/
def PlainMethod.table : List (PlainMethod × String × Nat) :=
  [(.toString, "toString", 0), (.valueOf, "valueOf", 0)]

/-- The functions of mathematics. -/
inductive MathFunction where
  | abs
  | acos
  | acosh
  | asin
  | asinh
  | atan
  | atan2
  | atanh
  | cbrt
  | ceil
  | clz32
  | cos
  | cosh
  | exp
  | expm1
  | floor
  | fround
  | hypot
  | imul
  | log
  | log10
  | log1p
  | log2
  | max
  | min
  | pow
  | random
  | round
  | sign
  | sin
  | sinh
  | sqrt
  | tan
  | tanh
  | trunc
  deriving DecidableEq

/-- The functions of mathematics with their names. -/
def MathFunction.table : List (MathFunction × String × Nat) :=
  [(.abs, "abs", 1), (.acos, "acos", 1), (.acosh, "acosh", 1), (.asin, "asin", 1),
    (.asinh, "asinh", 1), (.atan, "atan", 1), (.atan2, "atan2", 2), (.atanh, "atanh", 1),
    (.cbrt, "cbrt", 1), (.ceil, "ceil", 1), (.clz32, "clz32", 1), (.cos, "cos", 1),
    (.cosh, "cosh", 1), (.exp, "exp", 1), (.expm1, "expm1", 1), (.floor, "floor", 1),
    (.fround, "fround", 1), (.hypot, "hypot", 2), (.imul, "imul", 2), (.log, "log", 1),
    (.log10, "log10", 1), (.log1p, "log1p", 1), (.log2, "log2", 1), (.max, "max", 2),
    (.min, "min", 2), (.pow, "pow", 2), (.random, "random", 0), (.round, "round", 1),
    (.sign, "sign", 1), (.sin, "sin", 1), (.sinh, "sinh", 1), (.sqrt, "sqrt", 1),
    (.tan, "tan", 1), (.tanh, "tanh", 1), (.trunc, "trunc", 1)]

/-- The functions on JSON texts. -/
inductive JsonFunction where
  | parse
  | stringify
  deriving DecidableEq

/-- The functions on JSON texts with their names. -/
def JsonFunction.table : List (JsonFunction × String × Nat) :=
  [(.parse, "parse", 2), (.stringify, "stringify", 3)]

/-- Methods of regular expressions. -/
inductive RegexpMethod where
  | exec
  | test
  | toString
  deriving DecidableEq

/-- The methods of regular expressions with their names. -/
def RegexpMethod.table : List (RegexpMethod × String × Nat) :=
  [(.exec, "exec", 1), (.test, "test", 1), (.toString, "toString", 0)]

/-- What can be read off a regular expression. -/
inductive RegexpTrait where
  | flags
  | source
  | flag (letter : Char)
  deriving DecidableEq

/-- The traits of regular expressions with their names. -/
def RegexpTrait.table : List (RegexpTrait × String) :=
  [(.flags, "flags"), (.source, "source"), (.flag 'd', "hasIndices"), (.flag 'g', "global"),
    (.flag 'i', "ignoreCase"), (.flag 'm', "multiline"), (.flag 's', "dotAll"),
    (.flag 'u', "unicode"), (.flag 'y', "sticky")]

/-- Methods of maps and sets. -/
inductive CollectionMethod where
  | add
  | clear
  | delete
  | entries
  | forEach
  | get
  | has
  | keys
  | set
  | size
  | values
  deriving DecidableEq

/-- The methods of maps with their names. -/
def CollectionMethod.mapTable : List (CollectionMethod × String × Nat) :=
  [(.clear, "clear", 0), (.delete, "delete", 1), (.entries, "entries", 0), (.forEach, "forEach", 1),
    (.get, "get", 1), (.has, "has", 1), (.keys, "keys", 0), (.set, "set", 2), (.values, "values", 0)]

/-- The methods of sets with their names. -/
def CollectionMethod.setTable : List (CollectionMethod × String × Nat) :=
  [(.add, "add", 1), (.clear, "clear", 0), (.delete, "delete", 1), (.entries, "entries", 0),
    (.forEach, "forEach", 1), (.has, "has", 1), (.keys, "keys", 0), (.values, "values", 0)]

/-- The functions that are there before a script begins. -/
inductive Builtin where
  | maker (f : Maker)
  | host (f : HostFunction)
  | global (f : GlobalFunction)
  | objectFunction (f : ObjectFunction)
  | objectMethod (f : ObjectMethod)
  | functionMethod (f : FunctionMethod)
  | arrayFunction (f : ArrayFunction)
  | arrayMethod (f : ArrayMethod)
  | stringFunction (f : StringFunction)
  | stringMethod (f : StringMethod)
  | numberFunction (f : NumberFunction)
  | numberMethod (f : NumberMethod)
  | booleanMethod (f : PlainMethod)
  | symbolMethod (f : PlainMethod)
  | bigintMethod (f : PlainMethod)
  | errorToString
  | math (f : MathFunction)
  | json (f : JsonFunction)
  | regexpMethod (f : RegexpMethod)
  | regexpTrait (f : RegexpTrait)
  | mapMethod (f : CollectionMethod)
  | setMethod (f : CollectionMethod)
  | iteratorNext
  | itself
  deriving DecidableEq

end Extraction.Script
