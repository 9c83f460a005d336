import Extraction.Error
import Extraction.Json.Path.Basic

/-!
# Reading paths into JSON values

A path is written as an optional `$` and then steps: `.key`, `..key`, `.*`, `['key']`, `["key"]`,
`[n]`, `[-n]` and `[*]`. Without the `$` the first step may be a bare key. A key after a point runs
up to the next point or bracket.
-/

namespace Extraction

namespace JsonPath

/-- Whether a character belongs to a key that follows a point. -/
def isKeyChar (c : Char) : Bool := c != '.' && c != '['

/-- What precedes and what follows the first closing bracket outside quotation marks. -/
def splitSubscript? (quote : Option Char) : Text → Option (Text × Text)
  | [] => none
  | c :: cs =>
    let more (quote : Option Char) := (splitSubscript? quote cs).map fun (b, r) => (c :: b, r)
    match quote with
    | some q => more (if c = q then none else some q)
    | none =>
      if c = '\'' || c = '"' then more (some c)
      else if c = ']' then some ([], cs)
      else more none

/-- The integer of at most 64 bits that a text writes, an optional sign in front. -/
def position? (s : Text) : Option Int :=
  match s with
  | '-' :: rest => ((Text.digits? 10 rest).filter (· ≤ 9223372036854775808)).map fun n => -(n : Int)
  | '+' :: rest => ((Text.digits? 10 rest).filter (· < 9223372036854775808)).map fun n => (n : Int)
  | s => ((Text.digits? 10 s).filter (· < 9223372036854775808)).map fun n => (n : Int)

/-- The text between two marks `q`. -/
def unquote? (q : Char) (s : Text) : Option Text :=
  match s with
  | [] => none
  | c :: rest => if c = q then Text.dropSuffix? [q] rest else none

/-- The step that the text between two brackets writes. -/
def subscript (body : Text) : Except Fault Segment :=
  if body = ['*'] then .ok .wildcard
  else
    match position? body with
    | some i => .ok (.index i)
    | none =>
      match unquote? '\'' body <|> unquote? '"' body with
      | some k => .ok (.key k)
      | none => .error (.subscriptInvalid body)

theorem length_dropWhile_le {α : Type} (p : α → Bool) (s : List α) :
    (s.dropWhile p).length ≤ s.length := by
  induction s with
  | nil => simp
  | cons a s ih =>
    rw [List.dropWhile_cons]
    split
    · exact Nat.le_succ_of_le ih
    · exact Nat.le_refl _

theorem length_of_splitSubscript? {quote : Option Char} {s body rest : Text}
    (h : splitSubscript? quote s = some (body, rest)) : rest.length < s.length := by
  induction s generalizing quote body rest with
  | nil => simp [splitSubscript?] at h
  | cons c cs ih =>
    have step {quote : Option Char}
        (h : (splitSubscript? quote cs).map (fun (b, r) => (c :: b, r)) = some (body, rest)) :
        rest.length < (c :: cs).length := by
      rw [Option.map_eq_some_iff] at h
      obtain ⟨⟨b, r⟩, hb, he⟩ := h
      simp only [Prod.mk.injEq] at he
      have := ih hb
      rw [← he.2, List.length_cons]
      omega
    simp only [splitSubscript?] at h
    split at h
    · exact step h
    · split at h
      · exact step h
      · split at h
        · simp only [Option.some.injEq, Prod.mk.injEq] at h
          simp [h.2]
        · exact step h

/-- The steps that a text writes, the leading `$` read. -/
def readSegments (s : Text) : Except Fault (List Segment) :=
  match s with
  | [] => .ok []
  | '.' :: '.' :: after =>
    let key := after.takeWhile isKeyChar
    if key.isEmpty then .error .descentWithoutKey
    else do
      let rest ← readSegments (after.dropWhile isKeyChar)
      return .descend key :: rest
  | '.' :: after =>
    let key := after.takeWhile isKeyChar
    if key.isEmpty then .error .emptyKey
    else do
      let rest ← readSegments (after.dropWhile isKeyChar)
      return (if key = ['*'] then .wildcard else .key key) :: rest
  | '[' :: after =>
    match _hsplit : splitSubscript? none after with
    | none => .error .unclosedSubscript
    | some (body, rest) => do
      let first ← subscript (Text.trim body)
      let rest ← readSegments rest
      return first :: rest
  | s => .error (.pathUnreadable s)
termination_by s.length
decreasing_by
  · have := length_dropWhile_le isKeyChar after
    simp only [List.length_cons]
    omega
  · have := length_dropWhile_le isKeyChar after
    simp only [List.length_cons]
    omega
  · have := length_of_splitSubscript? _hsplit
    simp only [List.length_cons]
    omega

/-- The steps that a trimmed text writes. -/
def steps (s : Text) : Except Fault (List Segment) :=
  match s with
  | '$' :: rest => readSegments rest
  | [] => .ok []
  | c :: cs =>
    if isKeyChar c then do
      let rest ← readSegments ((c :: cs).dropWhile isKeyChar)
      return .key ((c :: cs).takeWhile isKeyChar) :: rest
    else readSegments (c :: cs)

/-- The path that a text writes. -/
def parse (text : Text) : Except RuleError JsonPath :=
  match steps (Text.trim text) with
  | .ok segments => .ok ⟨segments⟩
  | .error fault => .error (.malformed text fault)

/-- The values that the path written by `text` leads to. -/
def select (v : Json) (text : Text) : Except RuleError (List Json) :=
  (parse text).map (·.evaluate v)

end JsonPath

end Extraction
