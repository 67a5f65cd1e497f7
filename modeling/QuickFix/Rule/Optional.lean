import QuickFix.Action
import QuickFix.Rule.Trigger

/-!
# Optional values

A value stands where an optional one of the same type is wanted. The types are compared as texts;
any other pair may need a real conversion.
-/

set_option autoImplicit false

namespace QuickFix.Rule

/-- The type inside the option that a line wants. -/
def wantedType? (line : List Char) : Option (List Char) := do
  let rest ← triggered? "Somewhere wanted: option<" line
  let inner ← Text.before? ['>'] rest
  some (Text.trim inner)

/-- The type that a line says a value has. -/
def actualType? (line : List Char) : Option (List Char) :=
  (triggered? "This has type:" line).map Text.trim

/-- Wraps the range when the line above gives it the type that this line wants inside an option. -/
def someWrap (range : Range) (line : List Char) (above : Option (List Char)) :
    Option Proposal := do
  let wanted ← wantedType? line
  let actual ← above.bind actualType?
  if wanted.isEmpty || wanted != actual then none
  else some ⟨"Wrap value in Some", range.wrap "Some(" ")"⟩

end QuickFix.Rule
