import Extraction.Rule.Application
import Extraction.Rule.Direct
import Extraction.Session.Basic
import Extraction.Session.Config
import Extraction.Url.Resolve

/-!
# Extracting

An extractor reads texts, addresses and variables from documents by rules, within a session.

## Main definitions

* `Extractor`: settings, and a way to run scripts
* `Extractor.text`, `Extractor.rawAddress`, `Extractor.address`: one text, one address
* `Extractor.texts`, `Extractor.addresses`: lists of them
* `Extractor.collect`: fills variables
-/

namespace Extraction

/-- What reads from documents: the settings, and how scripts are run. -/
structure Extractor where
  config : Config
  engine : Engine

namespace Extractor

open Session (Action)

/-- The session that an extractor begins with. -/
def start (x : Extractor) : Session := Session.start x.config.keepsRules

/-- The one text that a rule yields, compiled in the dialect that fits the document best. -/
def single (x : Extractor) (p : Primitive) (rule : Text) : Action Text := do
  let compiled ← Session.rule rule p.mode true
  Session.onVariables (compiled.value.applySingle x.engine p)

/-- What a rule reads directly, or else the one text that it yields. -/
def read (x : Extractor) (doc : Document) (rule : Text) (target : Target) : Action Text := do
  match ← doc.primitive.readDirect? rule target with
  | some s => return s
  | none => x.single doc.primitive rule

/-- The text that a rule finds in a document. -/
def text (x : Extractor) (doc : Document) (rule : Text) : Action Text := x.read doc rule .text

/-- The address that a rule finds in a document, as it stands there. -/
def rawAddress (x : Extractor) (doc : Document) (rule : Text) : Action Text :=
  x.read doc rule .address

/-- The address that a rule finds in a document, completed. -/
def address (x : Extractor) (doc : Document) (rule : Text) : Action Text := do
  let raw ← x.rawAddress doc rule
  liftM (Url.resolve x.config.baseUrl raw)

/-- The texts that a rule finds in a document. -/
def texts (x : Extractor) (doc : Document) (rule : Text) : Action (List Text) := do
  let compiled ← Session.rule rule doc.primitive.mode true
  Session.onVariables (compiled.value.applyList x.engine doc.primitive)

/-- The addresses that a rule finds in a document, completed. -/
def addresses (x : Extractor) (doc : Document) (rule : Text) : Action (List Text) := do
  let raws ← x.texts doc rule
  liftM (raws.mapM (Url.resolve x.config.baseUrl))

/-- What the rule of one variable finds. -/
def value (x : Extractor) (doc : Document) (flag : VariableFlag) (rule : Text) : Action Text :=
  match flag with
  | .content => x.text doc rule
  | .url => x.address doc rule

/-- Fills variables as a variable map says, and answers all variables. All rules are read before any
variable is written, and a variable for which nothing is found keeps its text. -/
def collect (x : Extractor) (doc : Document) (rule : Text) (flag : VariableFlag) :
    Action Variables := do
  if doc.isSourceEmpty || Text.isBlankText rule then return (← get).vars
  let map := (← Session.variableMap rule flag).value
  let found ← map.entries.mapM fun (name, rule) => do
    return (name, ← x.value doc map.flag rule)
  modify fun s => { s with vars := s.vars.putAll (found.filter (!·.2.isEmpty)) }
  return (← get).vars

end Extractor

end Extraction
