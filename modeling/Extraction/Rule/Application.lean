import Extraction.Document.Select
import Extraction.Rule.Basic
import Extraction.Session.Variables

/-!
# Applying rules

The steps of a rule are applied one after the other: each selects from everything that the step
before has handed on. Between steps, scripts and replacements work on every item; after the last
step they work on the one text, or on the list of texts, that is wanted.

## Main definitions

* `Effect`: computations that may fail and that read and write the variables of a session
* `Engine`: how scripts are run
* `Rule.applySingle`, `Rule.applyList`: the one text, and the list of texts, that a rule yields
-/

namespace Extraction

/-- Computations that read and write variables and may fail; a failure leaves what has been written. -/
abbrev Effect (α : Type) := ExceptT RuleError (StateM Variables) α

/-- How a script is run on a value. -/
abbrev Engine := (script : Text) → Json → Effect Json

/-- Runs scripts one after the other, each on what the one before has made. -/
def Engine.runAll (engine : Engine) (scripts : List Text) (v : Json) : Effect Json :=
  scripts.foldlM (fun v script => engine script v) v

namespace Step

/-- What the step selects from one item. An item of a kind that the dialect does not apply to
contributes nothing. -/
def select (s : Step) (p : Primitive) : Except RuleError (List Primitive) :=
  match p.select s.mode s.selector with
  | .error (.backendMismatch _ _) => .ok []
  | found => found

/-- What the step selects from items, in order. -/
def selectAll (s : Step) (ps : List Primitive) : Except RuleError (List Primitive) :=
  (ps.mapM s.select).map List.flatten

/-- An item after the scripts of the step; none if they make null of it. -/
def script? (engine : Engine) (s : Step) (p : Primitive) : Effect (Option Primitive) :=
  if s.hasScripts then do
    match ← engine.runAll s.scripts p.toScriptValue with
    | .null => return none
    | v => return some (.ofScriptValue v)
  else return some p

/-- An item after the replacement of the step. -/
def replaceIn (s : Step) (p : Primitive) : Primitive :=
  match s.replace with
  | some r => .text (r.apply p.asText)
  | none => p

/-- An item as a step hands it on, if anything is left of it. -/
def handOnItem? (engine : Engine) (s : Step) (p : Primitive) : Effect (Option Primitive) := do
  let p ← s.script? engine p
  return (p.map s.replaceIn).filter (!·.isEmpty)

/-- The items as a step hands them on. A step without scripts and replacement hands on all. -/
def handOn (engine : Engine) (s : Step) (ps : List Primitive) : Effect (List Primitive) :=
  if s.hasScripts || s.replace.isSome then
    return (← ps.mapM (s.handOnItem? engine)).filterMap id
  else return ps

end Step

namespace Rule

/-- The items that the last of the steps selects, before its scripts and its replacement. -/
def selectThrough (engine : Engine) : List Step → List Primitive → Effect (List Primitive)
  | [], ps => return ps
  | [last], ps => liftM (last.selectAll ps)
  | s :: rest, ps => do
    let found ← s.selectAll ps
    selectThrough engine rest (← s.handOn engine found)

/-- The texts of items, one to a line. -/
def joinTexts (ps : List Primitive) : Text := ['\n'].intercalate (ps.map Primitive.asText)

/-- The value that the last scripts see one item as: a JSON value as it is, all else as its text. -/
def finalValue : Primitive → Json
  | .object v => v
  | p => .str p.asText

/-- The value that the last scripts see all items as, where one text is wanted: a JSON value that
stands alone as it is, all else as the joined texts. -/
def joinedValue : List Primitive → Json
  | [.object v] => v
  | ps => .str (joinTexts ps)

/-- The one text that a rule yields. A rule without steps yields the empty text. -/
def applySingle (engine : Engine) (r : Rule) (input : Primitive) : Effect Text :=
  match r.last? with
  | none => return []
  | some last => do
    let ps ← selectThrough engine r.steps [input]
    let text ←
      if last.hasScripts then Json.plainText <$> engine.runAll last.scripts (joinedValue ps)
      else pure (joinTexts ps)
    return match last.replace with
      | some replace => replace.apply text
      | none => text

/-- The texts that the scripts of the last step make of items: of one item alone perhaps several. -/
def scriptTexts (engine : Engine) (last : Step) (ps : List Primitive) : Effect (List Text) :=
  if !last.hasScripts then return ps.map Primitive.asText
  else
    match ps with
    | [only] => Json.plainTexts <$> engine.runAll last.scripts (finalValue only)
    | ps => ps.mapM fun p => Json.plainText <$> engine.runAll last.scripts (finalValue p)

/-- The list of texts that a rule yields. A rule without steps yields none. -/
def applyList (engine : Engine) (r : Rule) (input : Primitive) : Effect (List Text) :=
  match r.last? with
  | none => return []
  | some last => do
    let ps ← selectThrough engine r.steps [input]
    let texts ← scriptTexts engine last ps
    return match last.replace with
      | some replace => texts.map replace.replaceAll
      | none => texts

end Rule

end Extraction
