import QuickFix.Action
import QuickFix.Rule.Trigger
import QuickFix.Text.Word

/-!
# Type conversions

The checker names a function that converts a value to the type wanted; the fix calls it on the
range.
-/

set_option autoImplicit false

namespace QuickFix.Rule

/-- A conversion from one type to another by a function. -/
structure Conversion where
  source : List Char
  target : List Char
  function : List Char
  deriving DecidableEq, Repr

/-- The longest run of a class at the start of a text, if it is not empty, and the rest. -/
def run? (p : Char → Bool) (s : List Char) : Option (List Char × List Char) :=
  let taken := s.takeWhile p
  if taken.isEmpty then none else some (taken, s.dropWhile p)

/-- A character of the name of a function, which may be qualified. -/
def isPathChar (c : Char) : Bool :=
  Text.isWord c || c == '.'

/-- The conversion at the start of a text. A word run never ends early, since what has to follow it
is no word character. -/
def conversionAt? (s : List Char) : Option Conversion := do
  let s ← Text.after? "You can convert ".toList s
  let (source, s) ← run? Text.isWord s
  let s ← Text.after? " to ".toList s
  let (target, s) ← run? Text.isWord s
  let s ← Text.after? " with ".toList s
  let (function, _) ← run? isPathChar s
  some ⟨source, target, function⟩

/-- A text without the dots it ends with. -/
def dropFinalDots (s : List Char) : List Char :=
  (s.reverse.dropWhile (· == '.')).reverse

/-- Calls the conversion function on the range. The dot that ends a sentence is not part of the
function's name. -/
def conversion (range : Range) (line : List Char) : Option Proposal := do
  let _ ← triggered? "You can convert " line
  let found ← Text.leftmost? conversionAt? line
  let function := dropFinalDots found.function
  if function.isEmpty then none
  else
    let name := String.ofList function
    some ⟨"Convert " ++ String.ofList found.source ++ " to " ++ String.ofList found.target ++
      " with " ++ name, range.wrap (name ++ "(") ")"⟩

end QuickFix.Rule
