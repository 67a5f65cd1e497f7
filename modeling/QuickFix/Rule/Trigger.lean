import QuickFix.Text.Blank
import QuickFix.Text.Match

/-!
# Triggers

A rule answers only on a line that starts with the rule's trigger, blanks aside.
-/

set_option autoImplicit false

namespace QuickFix.Rule

/-- What follows the trigger on a line that starts with it, blanks at both ends aside. -/
def triggered? (trigger : String) (line : List Char) : Option (List Char) :=
  Text.after? trigger.toList (Text.trim line)

/-- Spaces up to a column. -/
def padding (column : UInt32) : List Char :=
  List.replicate column.toNat ' '

end QuickFix.Rule
