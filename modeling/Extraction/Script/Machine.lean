import Extraction.Script.Host
import Extraction.Script.Value

/-!
# What evaluation rests on

The evaluation of expressions, statements and calls is defined through one another. Each part is
given the others as a `Machine`, which is tied together in one place, up to a depth.

## Main definitions

* `Settings`: the host and the limits
* `Machine`: the parts of evaluation
-/

namespace Extraction.Script

/-- What a script runs with. -/
structure Settings where
  host : Host
  /-- How often the loops of one call may turn; zero is no bound. -/
  loopLimit : Nat
  /-- How many calls may be under way at a time. -/
  recursionLimit : Nat

/-- Where the parts of a pattern go: to names that have their first value yet to get, or to targets
of assignments. -/
inductive BindMode where
  | introduce
  | assign

/-- The parts of evaluation. -/
structure Machine where
  settings : Settings
  expr : Context → Expr → Run Value
  /-- Runs a statement that stands under labels. -/
  stmt : Context → List Name → Stmt → Run Completion
  bind : Context → BindMode → Pattern → Value → Run Unit
  /-- Calls a function with a `this` and arguments. -/
  call : Value → Value → Array Value → Run Value
  /-- Has a function make an object, for the constructor that was asked for. -/
  construct : Ref → Array Value → Ref → Run Value
  /-- Runs the text of a script. -/
  script : Text → Run Value

/-- The argument at a position; undefined if there is none. -/
def argument (args : Array Value) (i : Nat) : Value := args.getD i .undefined

end Extraction.Script
