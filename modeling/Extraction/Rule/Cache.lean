import Extraction.Rule.Compile
import Extraction.Rule.VariableMap

/-!
# Kept rules

Compiled rules are kept by their text and their dialect or flag. Every compiled rule has a mark of
its own, so that one that has been kept can be told from one that has been compiled anew. What does
not compile is not kept.

## Main definitions

* `RuleCache`: the rules that are kept: of many steps, of one step, and variable maps
* `RuleCache.rule`, `RuleCache.step`, `RuleCache.variableMap`: a kept rule, or one compiled now
-/

namespace Extraction

/-- A compiled rule with its mark. -/
structure Shared (α : Type) where
  mark : Nat
  value : α

/-- What is kept under keys. -/
abbrev Slot (κ α : Type) := List (κ × Shared α)

/-- The rules that are kept. -/
structure RuleCache where
  isEnabled : Bool
  /-- The next mark. -/
  next : Nat
  rules : Slot (Text × Mode) Rule
  steps : Slot (Text × Mode) Step
  maps : Slot (Text × VariableFlag) VariableMap

namespace RuleCache

/-- Nothing is kept yet. -/
def empty (isEnabled : Bool) : RuleCache := ⟨isEnabled, 0, [], [], []⟩

/-- The number of rules that are kept. -/
def size (c : RuleCache) : Nat := c.rules.length + c.steps.length + c.maps.length

/-- Nothing is kept any more. -/
def clear (c : RuleCache) : RuleCache := ⟨c.isEnabled, c.next, [], [], []⟩

/-- What a slot keeps under a key, or else what `compile` makes now. `compile` is an action, so that
it can be seen whether it is taken. Answers the outcome, the state after the action, the slot and
the next mark. -/
def fetch {κ α σ : Type} [BEq κ] (isEnabled : Bool) (next : Nat) (slot : Slot κ α) (key : κ)
    (compile : σ → Except RuleError α × σ) (state : σ) :
    Except RuleError (Shared α) × σ × Slot κ α × Nat :=
  match if isEnabled then slot.lookup key else none with
  | some shared => (.ok shared, state, slot, next)
  | none =>
    match compile state with
    | (.error e, state) => (.error e, state, slot, next)
    | (.ok value, state) =>
      let shared := ⟨next, value⟩
      (.ok shared, state, if isEnabled then (key, shared) :: slot else slot, next + 1)

variable {σ : Type}

/-- The rule kept under a text and a dialect, or else compiled now. -/
def rule (c : RuleCache) (text : Text) (mode : Mode) (compile : σ → Except RuleError Rule × σ)
    (state : σ) : Except RuleError (Shared Rule) × σ × RuleCache :=
  let (found, state, slot, next) := fetch c.isEnabled c.next c.rules (text, mode) compile state
  (found, state, { c with next, rules := slot })

/-- The step kept under a text and a dialect, or else compiled now. -/
def step (c : RuleCache) (text : Text) (mode : Mode) (compile : σ → Except RuleError Step × σ)
    (state : σ) : Except RuleError (Shared Step) × σ × RuleCache :=
  let (found, state, slot, next) := fetch c.isEnabled c.next c.steps (text, mode) compile state
  (found, state, { c with next, steps := slot })

/-- The variable map kept under a text and a flag, or else compiled now. -/
def variableMap (c : RuleCache) (text : Text) (flag : VariableFlag)
    (compile : σ → Except RuleError VariableMap × σ) (state : σ) :
    Except RuleError (Shared VariableMap) × σ × RuleCache :=
  let (found, state, slot, next) := fetch c.isEnabled c.next c.maps (text, flag) compile state
  (found, state, { c with next, maps := slot })

end RuleCache

end Extraction
