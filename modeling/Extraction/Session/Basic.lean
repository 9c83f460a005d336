import Extraction.Rule.Cache
import Extraction.Session.Placeholder

/-!
# Sessions

A session keeps compiled rules and variables. What it does may fail; then it still keeps what was
compiled and written before.

## Main definitions

* `Session`: the state
* `Session.Action`: what a session does
* `Session.rule`, `Session.step`, `Session.variableMap`: compiled rules, kept where that is wanted
-/

namespace Extraction

/-- The state of a session. -/
structure Session where
  cache : RuleCache
  vars : Variables

namespace Session

/-- What a session does: it changes the state and may fail. -/
abbrev Action (α : Type) := ExceptT RuleError (StateM Session) α

/-- A session without variables, in which nothing has been compiled. -/
def start (keepsRules : Bool) : Session := ⟨.empty keepsRules, .empty⟩

/-- Does on the variables what needs nothing else. -/
def onVariables {α : Type} (effect : ExceptT RuleError (StateM Variables) α) : Action α :=
  ExceptT.mk fun s =>
    let (found, vars) := effect.run s.vars
    (found, { s with vars })

/-- A rule as it is compiled: with its placeholders filled, where that is wanted. -/
def source (s : Session) (raw : Text) (fills : Bool) : Text :=
  if fills then s.vars.fill raw else raw

/-- The compiled rule that a text writes. -/
def rule (raw : Text) (mode : Mode) (fills : Bool) : Action (Shared Rule) :=
  ExceptT.mk fun s =>
    let text := s.source raw fills
    let (found, (), cache) := s.cache.rule text mode (fun () => (Rule.compile text mode, ())) ()
    (found, { s with cache })

/-- The compiled rule of one step that a text writes. -/
def step (raw : Text) (mode : Mode) (fills : Bool) : Action (Shared Step) :=
  ExceptT.mk fun s =>
    let text := s.source raw fills
    let (found, (), cache) :=
      s.cache.step text mode (fun () => (Rule.compileSingle text mode, ())) ()
    (found, { s with cache })

/-- The variable map that a text writes. Its placeholders stay: they belong to the rules in it. -/
def variableMap (raw : Text) (flag : VariableFlag) : Action (Shared VariableMap) :=
  ExceptT.mk fun s =>
    let (found, (), cache) :=
      s.cache.variableMap raw flag (fun () => (VariableMap.compile raw flag, ())) ()
    (found, { s with cache })

end Session

end Extraction
