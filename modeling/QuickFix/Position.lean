/-!
# Positions and ranges

A position is a line and a column of a file, both counted from zero in 32-bit words; columns count
UTF-16 units. Moving a column stops at the ends of the words' range.
-/

set_option autoImplicit false

namespace QuickFix

/-- A place between two characters of a file. -/
structure Position where
  line : UInt32
  character : UInt32
  deriving DecidableEq, Repr, Inhabited

namespace Position

/-- Positions are ordered by line, then by column. -/
instance : LE Position :=
  ⟨fun p q => p.line < q.line ∨ p.line = q.line ∧ p.character ≤ q.character⟩

/-- A position is before another one if the order holds this way only. -/
instance : LT Position :=
  ⟨fun p q => p.line < q.line ∨ p.line = q.line ∧ p.character < q.character⟩

instance (p q : Position) : Decidable (p ≤ q) :=
  inferInstanceAs (Decidable (p.line < q.line ∨ p.line = q.line ∧ p.character ≤ q.character))

instance (p q : Position) : Decidable (p < q) :=
  inferInstanceAs (Decidable (p.line < q.line ∨ p.line = q.line ∧ p.character < q.character))

end Position

/-- The greatest 32-bit word. -/
def greatestWord : UInt32 := 4294967295

/-- One less, but not below zero. -/
def wordBefore (n : UInt32) : UInt32 :=
  if n = 0 then 0 else n - 1

/-- `k` more, but not above the greatest word. -/
def wordAfter (n k : UInt32) : UInt32 :=
  if greatestWord - n < k then greatestWord else n + k

/-- The position one column to the left. -/
def Position.left (p : Position) : Position :=
  { p with character := wordBefore p.character }

/-- The position one column to the right. -/
def Position.right (p : Position) : Position :=
  { p with character := wordAfter p.character 1 }

/-- A stretch of a file. Nothing keeps `start` before `stop`. -/
structure Range where
  start : Position
  stop : Position
  deriving DecidableEq, Repr, Inhabited

/-- Whether a position lies in the range, both ends included. -/
def Range.contains (r : Range) (p : Position) : Bool :=
  r.start ≤ p && p ≤ r.stop

/-- The position before the range's last character, where a closing delimiter stands. -/
def Range.closing (r : Range) : Position :=
  r.stop.left

end QuickFix
