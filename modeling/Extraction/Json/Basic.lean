import Extraction.Decimal.Shortest

/-!
# JSON values

JSON values as the rules see them. A number is either an integer in the range of 64-bit words or a
float. The members of an object are kept in increasing order of their keys, one member per key.

## Main definitions

* `Json`: the values
* `Json.ofMembers`: an object from a list of members, where a later member replaces an earlier one
* `Json.get?`, `Json.at?`: the member under a key, the item at a position
-/

namespace Extraction

/-- An integer of at most 64 bits, signed or unsigned, or a finite float. -/
inductive Json.Number where
  | int (n : Int)
  | float (x : Float)

/-- A JSON value. -/
inductive Json where
  | null
  | bool (b : Bool)
  | num (n : Json.Number)
  | str (s : Text)
  | arr (items : List Json)
  | obj (members : List (Text × Json))

namespace Json

/-- The members with the one under `key` replaced, or put in its place in the order. -/
def insertMember (key : Text) (value : Json) : List (Text × Json) → List (Text × Json)
  | [] => [(key, value)]
  | (k, v) :: rest =>
    if k = key then (key, value) :: rest
    else if Text.before key k then (key, value) :: (k, v) :: rest
    else (k, v) :: insertMember key value rest

/-- The object with the given members; of two members with one key the later counts. -/
def ofMembers (members : List (Text × Json)) : Json :=
  .obj (members.foldl (fun acc (k, v) => insertMember k v acc) [])

/-- The member of an object under a key. -/
def get? (key : Text) : Json → Option Json
  | .obj members => members.lookup key
  | _ => none

/-- The item of an array at a position; a negative position counts from the end. -/
def at? (index : Int) : Json → Option Json
  | .arr items =>
    match index with
    | .ofNat n => items[n]?
    | .negSucc n => if n < items.length then items[items.length - 1 - n]? else none
  | _ => none

/-- The values directly inside a value, in order. -/
def children : Json → List Json
  | .arr items => items
  | .obj members => members.map Prod.snd
  | _ => []

mutual

/-- The values stored under `key` in every object inside a value, an object's own before those
inside its members. -/
def descendantsUnder (key : Text) : Json → List Json
  | .arr items => itemsUnder key items
  | .obj members => (members.lookup key).toList ++ membersUnder key members
  | _ => []

/-- The values stored under `key` inside the items of an array. -/
def itemsUnder (key : Text) : List Json → List Json
  | [] => []
  | v :: rest => descendantsUnder key v ++ itemsUnder key rest

/-- The values stored under `key` inside the members of an object. -/
def membersUnder (key : Text) : List (Text × Json) → List Json
  | [] => []
  | (_, v) :: rest => descendantsUnder key v ++ membersUnder key rest

end

/-- Whether the value counts as no content: null, a blank text, an array or object without
members. -/
def isEmpty : Json → Bool
  | .null => true
  | .str s => Text.isBlankText s
  | .arr items => items.isEmpty
  | .obj members => members.isEmpty
  | _ => false

end Json

end Extraction
