import QuickFix.Action
import QuickFix.Rule.Trigger
import QuickFix.Text.Pieces

/-!
# Missing cases of a match

The checker shows values that no case of a match handles, one on a line or several between bars. The
fix adds an arm for each of them that can be written as a pattern.
-/

set_option autoImplicit false

namespace QuickFix.Rule

/-- A text without the character it may start with. -/
def dropOpening (c : Char) (s : List Char) : List Char :=
  (Text.after? [c] s).getD s

/-- A text without the character it may end with. -/
def dropClosing (c : Char) (s : List Char) : List Char :=
  (Text.before? [c] s).getD s

/-- The values shown on a line. Bars separate them, and parentheses may stand around them all. -/
def alternatives (line : List Char) : List (List Char) :=
  let line := Text.trim line
  if line.contains '|' then
    Text.pieces (· == '|') (dropClosing ')' (dropOpening '(' line))
  else [line]

/-- The tag of a polymorphic variant is marked by a number sign in a pattern. -/
def marked : List Char → List Char
  | '`' :: tag => '#' :: tag
  | case => case

/-- The pattern for a value shown by the checker. Tuples and nested constructors are given up. -/
def pattern? (value : List Char) : Option (List Char) :=
  let value := Text.trim value
  if value.isEmpty || value.head? == some '(' || value.contains ',' then none
  else
    let case := marked value
    match Text.cut? ' ' case with
    | none => some case
    | some (name, payload) =>
      if (Text.trimStart payload).head? == some '(' then none
      else some (name ++ '(' :: Text.trim payload ++ [')'])

/-- The patterns for the values shown on lines. -/
def patterns (below : List (List Char)) : List (List Char) :=
  (below.flatMap alternatives).filterMap pattern?

/-- The arm of one pattern. -/
def arm (pattern : List Char) : List Char :=
  "| ".toList ++ pattern ++ " => assert false".toList

/-- The arms to put before the closing brace of a match: the first where the brace stood, the others
below it, and then the brace in its column again. -/
def armsText (range : Range) (patterns : List (List Char)) : List Char :=
  let pad := padding range.closing.character
  List.intercalate ('\n' :: pad) (patterns.map arm) ++ '\n' :: pad

/-- Adds the missing cases before the closing brace. -/
def matchCases (range : Range) (line : List Char) (below : List (List Char)) :
    Option Proposal := do
  let _ ← triggered? "You forgot to handle a possible case here, for example:" line
  let found := patterns below
  if found.isEmpty then none
  else
    some ⟨"Insert missing cases",
      [range.insertBeforeLast (String.ofList (armsText range found))]⟩

end QuickFix.Rule
