import Extraction.Error
import Extraction.Text.Letters
import Extraction.Text.Nesting
import Extraction.XPath.Basic

/-!
# Reading location paths

Paths are separated by bars, steps by one slash or two, and predicates stand in square brackets; none
of these counts inside brackets or quotes.

## Main definitions

* `XPath.parse`: the union of paths that a text writes, or what is wrong with it
* `XPath.select`: what the paths in a text lead to from a node
-/

namespace Extraction.XPath

/-- A failure of reading, where only the fault is known yet. -/
abbrev Reading (α : Type) := Except Fault α

/-- Whether a character may stand in a name. -/
def isNameChar (c : Char) : Bool := Text.isAlphanumeric c || ['-', '_', ':', '.'].elem c

/-- A name, blanks around it apart. -/
def readName (s : Text) : Reading Text :=
  let s := Text.trim s
  if !s.isEmpty && s.all isNameChar then .ok s else .error (.nameInvalid s)

/-- The text between quotes, blanks around them apart. -/
def unquote? (s : Text) : Option Text :=
  match Text.trim s with
  | q :: rest => if q = '\'' ∨ q = '"' then Text.dropSuffix? [q] rest else none
  | [] => none

/-- A predicate that compares or wants an attribute: the name after its sign. -/
def attributeName? (s : Text) : Option Text :=
  match s with
  | '@' :: name => some name
  | _ => none

/-- A predicate on the text or on an attribute. -/
def readOperand (body target value : Text) (onText : Text → Predicate)
    (onAttribute : Text → Text → Predicate) : Reading Predicate :=
  match unquote? value with
  | none => .error (.predicateUnsupported body)
  | some value =>
    let target := Text.trim target
    if target = "text()".toList then .ok (onText value)
    else
      match attributeName? target with
      | some name => (readName name).map (onAttribute · value)
      | none => .error (.predicateUnsupported body)

/-- The predicate that stands in brackets. -/
def readPredicate (body : Text) : Reading Predicate :=
  match Text.unsigned? 10 18446744073709551615 body with
  | some 0 => .error (.predicateUnsupported body)
  | some n => .ok (.index n)
  | none =>
    if body = "last()".toList then .ok .last
    else
      match ("contains(".toList.isPrefixOf? body).bind (Text.dropSuffix? [')']) with
      | some arguments =>
        match Text.splitOnce? [','] arguments with
        | some (target, value) => readOperand body target value .textContains .attributeContains
        | none => .error (.predicateUnsupported body)
      | none =>
        match Text.splitOnce? ['='] body with
        | some (target, value) => readOperand body target value .textIs .attributeIs
        | none =>
          match attributeName? body with
          | some name => (readName name).map .hasAttribute
          | none => .error (.predicateUnsupported body)

/-- The body of a predicate after its opening bracket, and what follows the closing one; `quote` is
the one that is open. -/
def predicateBody? (quote : Option Char) : Text → Option (Text × Text)
  | [] => none
  | c :: rest =>
    let next (quote : Option Char) : Option (Text × Text) :=
      (predicateBody? quote rest).map fun (body, after) => (c :: body, after)
    match quote with
    | some q => if c = q then next none else next (some q)
    | none =>
      if c = '\'' ∨ c = '"' then next (some c)
      else if c = ']' then some ([], rest)
      else next none

theorem length_of_predicateBody? {quote : Option Char} {s body after : Text}
    (h : predicateBody? quote s = some (body, after)) : after.length < s.length := by
  induction s generalizing quote body after with
  | nil => simp [predicateBody?] at h
  | cons c rest ih =>
    have step : ∀ q, (predicateBody? q rest).map (fun (b, a) => (c :: b, a)) = some (body, after) →
        after.length < (c :: rest).length := by
      intro q hq
      rw [Option.map_eq_some_iff] at hq
      obtain ⟨⟨b, a⟩, hb, he⟩ := hq
      simp only [Prod.mk.injEq] at he
      obtain ⟨_, rfl⟩ := he
      have := ih hb
      simp only [List.length_cons]
      omega
    unfold predicateBody? at h
    simp only at h
    split at h
    · split at h <;> exact step _ h
    · split at h
      · exact step _ h
      · split at h
        · simp only [Option.some.injEq, Prod.mk.injEq] at h
          rw [← h.2]
          simp
        · exact step _ h

/-- The predicates that a text lists. -/
def readPredicates (s : Text) : Reading (List Predicate) :=
  match s with
  | [] => .ok []
  | '[' :: rest =>
    match _hbody : predicateBody? none rest with
    | none => .error .predicateUnclosed
    | some (body, after) => do
      let predicate ← readPredicate (Text.trim body)
      let more ← readPredicates (Text.trimStart after)
      return predicate :: more
  | s => .error (.predicateMalformed s)
termination_by s.length
decreasing_by
  have := length_of_predicateBody? _hbody
  have := (List.dropWhile_suffix (l := after) Text.isBlank).length_le
  simp only [Text.trimStart, List.length_cons]
  omega

/-- The test that a step names. -/
def readTest (s : Text) : Reading Test :=
  if s.isEmpty then .error .emptyLocationStep
  else if s = ['*'] then .ok .anyElement
  else if s = ['.'] then .ok .self
  else if s = ['.', '.'] then .ok .parent
  else if s = "text()".toList then .ok .text
  else if s = ['@', '*'] then .ok .anyAttribute
  else
    match attributeName? s with
    | some name => (readName name).map .attribute
    | none => (readName s).map fun name => .label (Text.lowerAscii name)

/-- A step. -/
def readStep (axis : Axis) (s : Text) : Reading Step := do
  let head := s.takeWhile (· != '[')
  let rest := s.dropWhile (· != '[')
  let test ← readTest (Text.trim head)
  let predicates ← readPredicates rest
  return ⟨axis, test, predicates⟩

/-- The axis that slashes at the start of a text name, and the text after them. -/
def readAxis (s : Text) : Axis × Text :=
  match s with
  | '/' :: '/' :: rest => (.descendant, rest)
  | '/' :: rest => (.child, rest)
  | s => (.child, s)

theorem length_readAxis_cons (c : Char) (s : Text) (h : c = '/') :
    (readAxis (c :: s)).2.length < (c :: s).length := by
  subst h
  unfold readAxis
  split
  · rename_i rest heq
    rw [heq, List.length_cons, List.length_cons]
    exact Nat.lt_succ_of_lt (Nat.lt_succ_self _)
  · rename_i rest _ heq
    rw [heq, List.length_cons]
    exact Nat.lt_succ_self _
  · rename_i hne
    exact absurd rfl (hne s)

theorem cutOutside_snd (sep : Char) (n : Text.Nesting) (s : Text) :
    ∀ c rest, (Text.cutOutside sep n s).2 = c :: rest → c = sep := by
  induction s generalizing n with
  | nil => intro c rest h; simp [Text.cutOutside] at h
  | cons d s ih =>
    intro c rest h
    unfold Text.cutOutside at h
    split at h
    · rename_i hd
      simp only [List.cons.injEq] at h
      rw [← h.1]
      exact hd.2
    · exact ih _ c rest h

/-- The steps of a path, the first of which is on an axis. -/
def readSteps (axis : Axis) (s : Text) : Reading (List Step) := do
  let step ← readStep axis (Text.trim (Text.cutOutside '/' .outside s).1)
  match _hrest : (Text.cutOutside '/' .outside s).2 with
  | [] => return [step]
  | c :: rest =>
    let next := readAxis (c :: rest)
    if Text.isBlankText next.2 then throw .trailingSeparator
    let more ← readSteps next.1 next.2
    return step :: more
termination_by s.length
decreasing_by
  have h := Text.length_cutOutside '/' .outside s
  rw [_hrest] at h
  have := length_readAxis_cons c rest (cutOutside_snd _ _ _ c rest _hrest)
  omega

/-- A path. -/
def readPath (s : Text) : Reading Path := do
  let (axis, rest) := readAxis s
  let steps ← readSteps axis rest
  return ⟨s.head? == some '/', steps⟩

/-- The union of paths that a text writes. -/
def parse (s : Text) : Except RuleError XPath :=
  let s := Text.trim s
  let paths : Reading (List Path) :=
    if s.isEmpty then .error .emptyExpression
    else (Text.splitOutside '|' s).mapM fun path => readPath (Text.trim path)
  match paths with
  | .ok paths => .ok ⟨paths⟩
  | .error fault => .error (.malformed s fault)

/-- What the paths in a text lead to from a node. -/
def select (context : Markup.Place) (s : Text) : Except RuleError (List Item) :=
  (parse s).map (·.evaluate context)

end Extraction.XPath
