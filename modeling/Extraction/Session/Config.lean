import Extraction.Error
import Extraction.Json.Reader

/-!
# Settings of a session

The settings that a book source brings along. What it does not say has its usual value.

## Main definitions

* `Config`: the settings
* `Config.ofBookSource`: the settings in the JSON text of a book source
-/

namespace Extraction

/-- The settings of a session. -/
structure Config where
  /-- The address that relative addresses are completed with. -/
  baseUrl : Option Text
  /-- Whether compiled rules are kept. -/
  keepsRules : Bool
  /-- How long a request may take, in seconds. -/
  httpTimeout : Nat
  userAgent : Text
  /-- How often the loops of a script may turn; zero is no bound. -/
  loopLimit : Nat
  /-- How deep the calls of a script may nest. -/
  recursionLimit : Nat

namespace Config

/-- The usual settings. -/
def usual : Config where
  baseUrl := none
  keepsRules := true
  httpTimeout := 30
  userAgent := ("Mozilla/5.0 (Linux; Android 10) AppleWebKit/537.36 (KHTML, like Gecko) " ++
    "Chrome/120.0 Mobile Safari/537.36").toList
  loopLimit := 1000000
  recursionLimit := 512

/-- The largest number of a setting: it fills 64 bits. -/
def maxNumber : Nat := 18446744073709551615

/-- The number that a value is. -/
def number? : Json → Option Nat
  | .num (.int (.ofNat n)) => if n ≤ maxNumber then some n else none
  | _ => none

/-- The settings, in the order in which a list gives them. -/
inductive Setting where
  | baseUrl
  | keepsRules
  | httpTimeout
  | userAgent
  | loopLimit
  | recursionLimit
  deriving DecidableEq

namespace Setting

/-- All settings in order. -/
def all : List Setting :=
  [baseUrl, keepsRules, httpTimeout, userAgent, loopLimit, recursionLimit]

/-- The setting of a key. -/
def ofKey? (key : Text) : Option Setting :=
  if key = "baseUrl".toList ∨ key = "bookSourceUrl".toList then some baseUrl
  else if key = "enableRuleCache".toList then some keepsRules
  else if key = "httpTimeout".toList then some httpTimeout
  else if key = "userAgent".toList then some userAgent
  else if key = "scriptLoopLimit".toList then some loopLimit
  else if key = "scriptRecursionLimit".toList then some recursionLimit
  else none

/-- The settings with one of them given by a value; none if the value does not fit. -/
def assign? (setting : Setting) (v : Json) (c : Config) : Option Config :=
  match setting, v with
  | baseUrl, .null => some { c with baseUrl := none }
  | baseUrl, .str s => some { c with baseUrl := some s }
  | keepsRules, .bool b => some { c with keepsRules := b }
  | httpTimeout, v => (number? v).map fun n => { c with httpTimeout := n }
  | userAgent, .str s => some { c with userAgent := s }
  | loopLimit, v => (number? v).map fun n => { c with loopLimit := n }
  | recursionLimit, v => (number? v).map fun n => { c with recursionLimit := n }
  | _, _ => none

end Setting

/-- The settings that members give; none if a value does not fit or a setting is given twice. `given`
are the settings given before. -/
def ofMembers? (given : List Setting) (c : Config) : List (Text × Json) → Option Config
  | [] => some c
  | (key, v) :: rest =>
    match Setting.ofKey? key with
    | none => ofMembers? given c rest
    | some setting =>
      if given.elem setting then none
      else (setting.assign? v c).bind fun c => ofMembers? (setting :: given) c rest

/-- The settings that a list gives; none if a value does not fit or there are too many. -/
def ofItems? (c : Config) : List Setting → List Json → Option Config
  | _, [] => some c
  | [], _ :: _ => none
  | setting :: settings, v :: rest => (setting.assign? v c).bind fun c => ofItems? c settings rest

/-- The settings in the JSON text of a book source: members of an object, where others are passed
over, or a list in order. -/
def ofBookSource (s : Text) : Except RuleError Config :=
  let found :=
    match Json.parseMembers? (fun key => (Setting.ofKey? key).isNone) s with
    | some members => ofMembers? [] usual members
    | none =>
      match Json.parse? s with
      | some (.arr items) => ofItems? usual Setting.all items
      | _ => none
  match found with
  | none => .error .json
  | some c => if c.httpTimeout = 0 then .error (.input .timeoutZero) else .ok c

end Config

end Extraction
