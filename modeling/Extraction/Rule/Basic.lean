import Extraction.Rule.Mode
import Extraction.Rule.Replacement

/-!
# Compiled rules

A rule is a list of steps. Each step selects values by its selector, in its dialect, and then works
on them by its scripts and its replacement.
-/

namespace Extraction

/-- One step of a rule. -/
structure Step where
  selector : Text
  mode : Mode
  scripts : List Text
  replace : Option Replacement

/-- Whether the step has scripts. -/
def Step.hasScripts (s : Step) : Bool := !s.scripts.isEmpty

/-- A rule: steps, the first of which is applied first. -/
structure Rule where
  steps : List Step

namespace Rule

/-- The last step. -/
def last? (r : Rule) : Option Step := r.steps.getLast?

/-- How many steps there are. -/
def length (r : Rule) : Nat := r.steps.length

end Rule

end Extraction
