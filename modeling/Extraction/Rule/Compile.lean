import Extraction.Rule.Basic
import Extraction.Rule.Segment

/-!
# Compiling rules

A rule is compiled segment by segment. The dialect of a step is the one its hint names, else the one
its selector shows (`//` a location path, `$.` and `$[` a path into JSON), else the default.
-/

namespace Extraction

namespace Rule

/-- The dialect of a segment's body and the selector after the hint. -/
def resolveMode (default : Mode) (body : Text) : Mode × Text :=
  match Mode.ofHint? body with
  | some (mode, selector) => (mode, selector)
  | none =>
    if ['/', '/'].isPrefixOf body then (.xpath, body)
    else if ['$', '.'].isPrefixOf body || ['$', '['].isPrefixOf body then (.json, body)
    else (default, body)

/-- The largest number of a group that can be written. -/
def maxGroup : Nat := 18446744073709551615

/-- The group that the third part of a replacement names. -/
def readGroup (regex : Regex) (text : Option Text) : Except Fault (Option Nat) :=
  match Text.trim (text.getD []) with
  | [] => .ok none
  | g =>
    match Text.unsigned? 10 maxGroup g with
    | none => .error (.groupUnreadable g)
    | some n =>
      if n < regex.groupCount then .ok (some n)
      else .error (.groupOutOfRange n (regex.groupCount - 1))

/-- The replacement that the text after a fence writes, as `regex##replacement##group`. -/
def readReplacement (text : Text) : Except Fault (Option Replacement) :=
  match Text.splitOn fence text with
  | [] => .ok none
  | pattern :: parts =>
    if 2 < parts.length then .error .tooManyFences
    else if pattern.isEmpty then
      if parts.all Text.isBlankText then .ok none else .error .replacementWithoutPattern
    else
      match Regex.compile? pattern with
      | none => .error .patternRejected
      | some regex => do
        let group ← readGroup regex parts[1]?
        return some { regex, template := Replacement.normalize (parts[0]?.getD []), group }

/-- The step that a segment writes. -/
def compileSegment (default : Mode) (s : Segment) : Except Fault Step := do
  let (mode, selector) := resolveMode default (Text.trim s.body)
  let replace ← match s.regex with
    | some text => readReplacement text
    | none => pure none
  return { selector := Text.trim selector, mode, scripts := s.scripts, replace }

/-- The step that stands for a whole value. -/
def wholeValue (mode : Mode) : Step := { selector := [], mode, scripts := [], replace := none }

/-- The rule that a text writes. A blank text stands for the whole value. -/
def compile (raw : Text) (mode : Mode) : Except RuleError Rule :=
  match Text.trim raw with
  | [] => .ok ⟨[wholeValue mode]⟩
  | text =>
    match splitSteps text >>= List.mapM (compileSegment mode) with
    | .ok steps => .ok ⟨steps⟩
    | .error fault => .error (.malformed text fault)

/-- The step of a rule that has one step. -/
def compileSingle (raw : Text) (mode : Mode) : Except RuleError Step := do
  let rule ← compile raw mode
  match rule.steps with
  | [step] => return step
  | steps => throw (.malformed raw (.notSingleStep steps.length))

end Rule

end Extraction
