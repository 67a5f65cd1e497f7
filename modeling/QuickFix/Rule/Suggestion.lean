import QuickFix.Action
import QuickFix.Rule.Trigger
import QuickFix.Text.Word

/-!
# Suggested identifiers

The checker proposes a name for one it cannot find; the fix puts it in place of the range.
-/

set_option autoImplicit false

namespace QuickFix.Rule

/-- A character of a suggested identifier. -/
def isIdentifierChar (c : Char) : Bool :=
  Text.isPlain c || c == '_' || c == '\''

/-- The identifier, possibly empty, behind the leftmost `Did you mean `. -/
def suggested? (line : List Char) : Option (List Char) :=
  (Text.leftmost? (Text.after? "Did you mean ".toList) line).map
    (List.takeWhile isIdentifierChar)

/-- Replaces the range by the suggested identifier. -/
def suggestion (range : Range) (line : List Char) : Option Proposal := do
  let _ ← triggered? "Hint: Did you mean" line
  let name ← suggested? line
  if name.isEmpty then none
  else
    let name := String.ofList name
    some ⟨"Replace with '" ++ name ++ "'", [⟨range, name⟩]⟩

end QuickFix.Rule
