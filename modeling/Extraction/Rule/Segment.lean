import Extraction.Error
import Extraction.Rule.Marks

/-!
# Segments

A rule is cut at its arrows into segments. Each segment has a body, the text after its first fence,
and the scripts that stood anywhere in it. Arrows and fences inside quotation marks or brackets do
not count, a backslash takes the character after it along, and in the text after a fence an arrow
counts only after a blank.

The scanner is one step on the next character, which may take more characters along, and one loop.
-/

namespace Extraction.Rule

/-- A step as it is written. -/
structure Segment where
  body : Text := []
  /-- The text after the first fence. -/
  regex : Option Text := none
  scripts : List Text := []
  deriving DecidableEq

/-- Whether the segment writes nothing. -/
def Segment.isBlank (s : Segment) : Bool :=
  Text.isBlankText s.body && s.regex.isNone && s.scripts.isEmpty

/-- What a scanner of segments has read. -/
structure Scan where
  /-- The segments that are complete. -/
  segments : List Segment := []
  /-- The segment under way; it has a regular expression once its fence was read. -/
  current : Segment := {}
  /-- The open brackets, innermost first. -/
  brackets : List Char := []
  /-- The mark of the quoted run under way. -/
  quote : Option Char := none
  /-- The character read last. -/
  previous : Option Char := none
  deriving DecidableEq

namespace Scan

/-- The scan with text added to the body of the current segment. -/
def addBody (s : Scan) (t : Text) : Scan :=
  { s with current := { s.current with body := s.current.body ++ t } }

/-- The scan with a script added to the current segment, blanks around it removed. -/
def addScript (s : Scan) (t : Text) : Scan :=
  { s with current := { s.current with scripts := s.current.scripts ++ [Text.trim t] } }

/-- The scan with the text after the fence replaced. -/
def setRegex (s : Scan) (t : Text) : Scan := { s with current := { s.current with regex := some t } }

/-- The scan with the current segment complete. -/
def close (s : Scan) : Except Fault Scan :=
  if s.current.isBlank then .error (.emptyStep (s.segments.length + 1))
  else .ok { s with segments := s.segments ++ [s.current], current := {} }

/-- Whether a text ends in a blank. -/
def endsBlank (t : Text) : Bool := (t.getLast?.map Text.isBlank).getD false

/-- A character of the text after a fence, `regex` being what was read of it. -/
def regexStep (s : Scan) (regex : Text) (c : Char) (cs : Text) : Except Fault (Scan × Nat) :=
  if endsBlank regex && arrow.isPrefixOf (c :: cs) then do
    let s ← (s.setRegex (Text.trimEnd regex)).close
    return (s, 1)
  else .ok (s.setRegex (regex ++ [c]), 0)

/-- A backslash of a body together with the character after it. -/
def escapeStep (s : Scan) (cs : Text) : Scan × Nat :=
  match cs with
  | [] => (s.addBody ['\\'], 0)
  | d :: _ => (s.addBody ['\\', d], 1)

/-- A character of a body inside the quoted run that `q` opened. -/
def quotedStep (s : Scan) (q c : Char) (cs : Text) : Scan × Nat :=
  if c = '\\' then s.escapeStep cs
  else ({ s.addBody [c] with quote := if c = q then none else some q }, 0)

/-- A character of a body outside quoted runs. -/
def bodyStep (s : Scan) (c : Char) (cs : Text) : Except Fault (Scan × Nat) :=
  if c = '\\' then .ok (s.escapeStep cs)
  else if isQuote c && opensQuote s.previous then .ok ({ s.addBody [c] with quote := some c }, 0)
  else if isOpener c then .ok ({ s.addBody [c] with brackets := c :: s.brackets }, 0)
  else
    match opener? c with
    | some o =>
      match s.brackets with
      | [] => .error (.unexpectedCloser c)
      | b :: outer =>
        if b = o then .ok ({ s.addBody [c] with brackets := outer }, 0)
        else .error (.unexpectedCloser c)
    | none =>
      if s.brackets.isEmpty && arrow.isPrefixOf (c :: cs) then do
        let s ← s.close
        return (s, 1)
      else if s.brackets.isEmpty && fence.isPrefixOf (c :: cs) then .ok (s.setRegex [], 1)
      else .ok (s.addBody [c], 0)

/-- What reading the character `c`, with `cs` after it, makes of a scan, and how many characters
after `c` it takes along. -/
def step (s : Scan) (c : Char) (cs : Text) : Except Fault (Scan × Nat) :=
  match s.quote with
  | some q => .ok (s.quotedStep q c cs)
  | none =>
    match scriptOpen.isPrefixOf? (c :: cs) with
    | some rest =>
      match Text.splitOnce? scriptClose rest with
      | none => .error .unclosedScript
      | some (script, _) =>
        .ok (s.addScript script, scriptOpen.length + script.length + scriptClose.length - 1)
    | none =>
      match if s.brackets.isEmpty then Text.dropPrefixIgnoreCase? scriptRest (c :: cs) else none with
      | some script => .ok (s.addScript script, cs.length)
      | none =>
        match s.current.regex with
        | some regex => s.regexStep regex c cs
        | none => s.bodyStep c cs

/-- Reads a text to its end. -/
def run (s : Scan) (text : Text) : Except Fault Scan :=
  match text with
  | [] => .ok s
  | c :: cs =>
    match s.step c cs with
    | .error fault => .error fault
    | .ok (s, extra) => run { s with previous := (c :: cs)[extra]? } (cs.drop extra)
termination_by text.length
decreasing_by
  simp only [List.length_drop, List.length_cons]
  omega

/-- The segments of a scan at the end of its text. -/
def finish (s : Scan) : Except Fault (List Segment) :=
  if s.quote.isSome then .error .unclosedQuote
  else
    match s.brackets with
    | open_ :: _ => .error (.unclosedBracket open_)
    | [] => s.close.map (·.segments)

end Scan

/-- The segments of a rule. -/
def splitSteps (text : Text) : Except Fault (List Segment) := do
  let s ← Scan.run {} text
  s.finish

end Extraction.Rule
