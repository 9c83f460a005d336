import Extraction.Error
import Extraction.Rule.Marks

/-!
# Variable maps

A variable map names the variables that a rule each fills, as pairs `name@@rule` joined by `&&`.
Separators inside quotation marks or scripts do not count.
-/

namespace Extraction

/-- Whether the variables of a map hold addresses, which are resolved, or other content. -/
inductive VariableFlag where
  | url
  | content
  deriving DecidableEq

/-- Names with the rules that fill them, in the order written. -/
structure VariableMap where
  entries : List (Text × Text)
  flag : VariableFlag
  deriving DecidableEq

namespace VariableMap

/-- Separates the pairs of a map. -/
def pairSeparator : Text := ['&', '&']

/-- Separates a name from its rule. -/
def nameSeparator : Text := ['@', '@']

/-- The rule of a name. -/
def get? (m : VariableMap) (name : Text) : Option Text := m.entries.lookup name

/-- What a scanner of pairs has read. -/
structure Scan where
  /-- The pairs that are complete. -/
  parts : List Text := []
  current : Text := []
  /-- The mark of the quoted run under way. -/
  quote : Option Char := none
  /-- The character read last. -/
  previous : Option Char := none
  deriving DecidableEq

namespace Scan

/-- What reading the character `c`, with `cs` after it, makes of a scan, and how many characters
after `c` it takes along. -/
def step (s : Scan) (c : Char) (cs : Text) : Except Fault (Scan × Nat) :=
  match s.quote with
  | some q =>
    .ok ({ s with current := s.current ++ [c], quote := if c = q then none else some q }, 0)
  | none =>
    match Rule.scriptOpen.isPrefixOf? (c :: cs) with
    | some rest =>
      match Text.splitOnce? Rule.scriptClose rest with
      | none => .error .unclosedScript
      | some (script, _) =>
        let whole := Rule.scriptOpen ++ script ++ Rule.scriptClose
        .ok ({ s with current := s.current ++ whole }, whole.length - 1)
    | none =>
      if Rule.isQuote c && Rule.opensQuote s.previous then
        .ok ({ s with current := s.current ++ [c], quote := some c }, 0)
      else if pairSeparator.isPrefixOf (c :: cs) then
        .ok ({ s with parts := s.parts ++ [s.current], current := [] }, 1)
      else .ok ({ s with current := s.current ++ [c] }, 0)

/-- Reads a text to its end. -/
def run (s : Scan) (text : Text) : Except Fault Scan :=
  match text with
  | [] => .ok s
  | c :: cs =>
    match s.step c cs with
    | .error fault => .error fault
    | .ok (s, extra) => run { s with previous := (c :: cs)[extra]? } (cs.drop extra)
termination_by text.length
decreasing_by
  simp only [List.length_drop, List.length_cons]
  omega

end Scan

/-- The texts between the separators of pairs. -/
def splitPairs (text : Text) : Except Fault (List Text) := do
  let s ← Scan.run {} text
  return s.parts ++ [s.current]

/-- The name and the rule of a pair without blanks around it. -/
def readPair (pair : Text) : Except Fault (Text × Text) :=
  match Text.splitOnce? nameSeparator pair with
  | none => .error (.pairWithoutSeparator pair)
  | some (name, rule) =>
    let name := Text.trim name
    if name.isEmpty || name.any Text.isBlank then .error (.variableNameInvalid name)
    else .ok (name, Text.trim rule)

/-- The entries of pairs, `seen` being the names before them. A name may not come twice; an entry
whose rule is empty is dropped, but its name counts. -/
def readPairs (seen : List Text) : List Text → Except Fault (List (Text × Text))
  | [] => .ok []
  | part :: rest =>
    match Text.trim part with
    | [] => readPairs seen rest
    | pair => do
      let (name, rule) ← readPair pair
      if seen.contains name then throw (.variableRepeated name)
      let entries ← readPairs (name :: seen) rest
      return if rule.isEmpty then entries else (name, rule) :: entries

/-- The variable map that a text writes. -/
def compile (raw : Text) (flag : VariableFlag) : Except RuleError VariableMap :=
  if Text.isBlankText raw then .ok ⟨[], flag⟩
  else
    match splitPairs raw >>= readPairs [] with
    | .ok entries => .ok ⟨entries, flag⟩
    | .error fault => .error (.malformed raw fault)

end VariableMap

end Extraction
