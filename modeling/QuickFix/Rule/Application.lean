import QuickFix.Action
import QuickFix.Rule.Trigger

/-!
# Expressions to be discarded and calls that need a dot

Two rules whose fix depends on the trigger alone.
-/

set_option autoImplicit false

namespace QuickFix.Rule

/-- Discards the value of an expression that stands as a statement. -/
def unitWrap (range : Range) (line : List Char) : Option Proposal := do
  let _ ← triggered? "Toplevel expression is expected to have unit type." line
  some ⟨"Wrap expression in ignore", range.wrap "ignore(" ")"⟩

/-- Puts the dot of an uncurried call behind the parenthesis that follows the function. -/
def uncurriedDot (range : Range) (line : List Char) : Option Proposal := do
  let _ ← triggered? "This is an uncurried ReScript function. It must be applied with a dot." line
  some ⟨"Insert uncurried application dot", [.insertion range.stop.right ". "]⟩

end QuickFix.Rule
