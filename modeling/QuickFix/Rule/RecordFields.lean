import QuickFix.Action
import QuickFix.Rule.Trigger
import QuickFix.Text.Pieces

/-!
# Missing record fields

The checker lists the fields that a record literal lacks, on the trigger's line and on all lines
below it. The fix adds a placeholder for each before the closing brace.
-/

set_option autoImplicit false

namespace QuickFix.Rule

/-- The fields listed behind the trigger and on the lines below it. -/
def listedFields (rest : List Char) (below : List (List Char)) : List (List Char) :=
  Text.words rest ++ below.flatMap Text.words

/-- One placeholder behind the last field of a record on one line. -/
def inlineField (field : List Char) : List Char :=
  ", ".toList ++ field ++ ": assert false".toList

/-- One placeholder on a line of its own. -/
def fieldLine (pad field : List Char) : List Char :=
  pad ++ field ++ ": assert false,\n".toList

/-- The placeholders to put before the closing brace of a record. In a record over several lines the
brace's column already stands before the first placeholder, each placeholder is two columns further
in than the brace, and the brace gets its column back. -/
def fieldsText (range : Range) (fields : List (List Char)) : List Char :=
  if range.start.line = range.stop.line then fields.flatMap inlineField
  else
    let column := range.closing.character
    match fields with
    | [] => padding column
    | first :: more =>
      fieldLine "  ".toList first ++ more.flatMap (fieldLine (padding (wordAfter column 2))) ++
        padding column

/-- Adds the missing fields before the closing brace. -/
def recordFields (range : Range) (line : List Char) (below : List (List Char)) :
    Option Proposal := do
  let rest ← triggered? "Some record fields are undefined:" line
  let fields := listedFields rest below
  if fields.isEmpty then none
  else
    some ⟨"Add missing record fields",
      [range.insertBeforeLast (String.ofList (fieldsText range fields))]⟩

end QuickFix.Rule
