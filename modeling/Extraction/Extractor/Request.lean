import Extraction.Extractor.Basic

/-!
# Requests

All that can be asked of an extractor within a session, as data, and what it answers.

## Main definitions

* `Request`, `Answer`: what is asked and answered
* `Extractor.answer`: answers a request
* `Extractor.conduct`: does what a whole session is for
-/

namespace Extraction

/-- What can be asked within a session. -/
inductive Request where
  | text (doc : Document) (rule : Text)
  | rawAddress (doc : Document) (rule : Text)
  | address (doc : Document) (rule : Text)
  | texts (doc : Document) (rule : Text)
  | addresses (doc : Document) (rule : Text)
  | collect (doc : Document) (rule : Text) (flag : VariableFlag)
  | put (name value : Text)
  | get (name : Text)
  | rule (raw : Text) (mode : Mode) (fills : Bool)
  | step (raw : Text) (mode : Mode) (fills : Bool)
  | variableMap (raw : Text) (flag : VariableFlag)
  | config

/-- What is answered. -/
inductive Answer where
  | text (s : Text)
  | texts (list : List Text)
  | vars (vs : Variables)
  | written
  | stored (value : Option Text)
  | rule (compiled : Shared Rule)
  | step (compiled : Shared Step)
  | variableMap (compiled : Shared VariableMap)
  | config (c : Config)

namespace Extractor

open Session (Action)

/-- Answers a request. -/
def answer (x : Extractor) : Request → Action Answer
  | .text doc rule => .text <$> x.text doc rule
  | .rawAddress doc rule => .text <$> x.rawAddress doc rule
  | .address doc rule => .text <$> x.address doc rule
  | .texts doc rule => .texts <$> x.texts doc rule
  | .addresses doc rule => .texts <$> x.addresses doc rule
  | .collect doc rule flag => .vars <$> x.collect doc rule flag
  | .put name value => do
    modify fun s => { s with vars := s.vars.put name value }
    return .written
  | .get name => return .stored ((← MonadState.get).vars.get? name)
  | .rule raw mode fills => .rule <$> Session.rule raw mode fills
  | .step raw mode fills => .step <$> Session.step raw mode fills
  | .variableMap raw flag => .variableMap <$> Session.variableMap raw flag
  | .config => return .config x.config

/-- Does a task in a session of its own. A script that leaves behind what is no value at all ends the
session. -/
def conduct {α : Type} (x : Extractor) (task : Action α) : Except RuleError α :=
  match (task.run x.start).1 with
  | .error (.script .unconvertible) => .error .sessionAborted
  | found => found

end Extractor

end Extraction
