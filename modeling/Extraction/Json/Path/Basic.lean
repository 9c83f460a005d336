import Extraction.Json.Basic

/-!
# Paths into JSON values

A path is a list of steps. A step takes one value to the list of values it leads to, in the order
in which they are stored, and a path takes each step on all values that the steps before it led to.
-/

namespace Extraction

/-- One step of a path. -/
inductive JsonPath.Segment where
  /-- The member under a key. -/
  | key (key : Text)
  /-- The item at a position, from the end if it is negative. -/
  | index (index : Int)
  /-- All items or members. -/
  | wildcard
  /-- The values stored under a key anywhere inside. -/
  | descend (key : Text)
  deriving DecidableEq

/-- A path into a JSON value. -/
structure JsonPath where
  segments : List JsonPath.Segment
  deriving DecidableEq

namespace JsonPath

/-- The values that one step leads to. -/
def Segment.apply : Segment → Json → List Json
  | key k, v => (v.get? k).toList
  | index i, v => (v.at? i).toList
  | wildcard, v => v.children
  | descend k, v => v.descendantsUnder k

/-- The values that a list of steps leads to. -/
def follow : List Segment → Json → List Json
  | [], v => [v]
  | s :: rest, v => (s.apply v).flatMap (follow rest)

/-- The values that the path leads to. -/
def evaluate (p : JsonPath) (v : Json) : List Json := follow p.segments v

end JsonPath

end Extraction
