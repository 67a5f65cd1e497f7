import QuickFix.Position

/-!
# Edits

An edit replaces a range of a file by a text. Fixes are built from two shapes: an insertion before
the last character of a range, and a wrapping of a range by two insertions.
-/

set_option autoImplicit false

namespace QuickFix

/-- The replacement of a range by a text. -/
structure Edit where
  range : Range
  newText : String
  deriving DecidableEq, Repr

/-- The edit that only inserts. -/
def Edit.insertion (p : Position) (text : String) : Edit :=
  { range := ⟨p, p⟩
    newText := text }

/-- The insertion before the last character of a range. -/
def Range.insertBeforeLast (r : Range) (text : String) : Edit :=
  .insertion r.closing text

/-- The insertions that put `opening` and `closing` around a range. A range without extent stands
for the one character before it. -/
def Range.wrap (r : Range) (opening closing : String) : List Edit :=
  let start := if r.start = r.stop then r.start.left else r.start
  [.insertion start opening, .insertion r.stop closing]

end QuickFix
