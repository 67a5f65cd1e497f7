import QuickFix.Text.Alphabetic
import QuickFix.Text.Mark
import QuickFix.Text.Number
import QuickFix.Text.Recent

/-!
# Word characters

The characters that names in messages are made of: letters, marks, decimal digits, connectors such
as the low line, and the two joiners. Words follow version 16 of the Unicode standard; letters and
numbers follow version 17.
-/

set_option autoImplicit false

namespace QuickFix.Text

/-- Whether the code point lies in one of the ranges, ends included. -/
def within (ranges : List (Nat × Nat)) (n : Nat) : Bool :=
  ranges.any fun r => r.1 ≤ n && n ≤ r.2

/-- An ASCII letter or digit. -/
def isPlain (c : Char) : Bool :=
  ('a' ≤ c && c ≤ 'z') || ('A' ≤ c && c ≤ 'Z') || ('0' ≤ c && c ≤ '9')

/-- An ASCII capital as its small letter. -/
def lower (c : Char) : Char :=
  if 'A' ≤ c && c ≤ 'Z' then Char.ofNat (c.toNat + 32) else c

/-- Connecting punctuation beyond the low line. -/
def connectorRanges : List (Nat × Nat) :=
  [(0x203F, 0x2040), (0x2054, 0x2054), (0xFE33, 0xFE34), (0xFE4D, 0xFE4F), (0xFF3F, 0xFF3F)]

/-- A character that can stand in a word. -/
def isWord (c : Char) : Bool :=
  if c.toNat < 0x80 then isPlain c || c == '_'
  else
    let n := c.toNat
    !within recentRanges n &&
      (within alphabeticRanges n || within markRanges n || within decimalRanges n ||
        within connectorRanges n || n == 0x200C || n == 0x200D)

/-- A letter of any script. -/
def isLetter (c : Char) : Bool :=
  if c.toNat < 0x80 then ('a' ≤ c && c ≤ 'z') || ('A' ≤ c && c ≤ 'Z')
  else within alphabeticRanges c.toNat

/-- A letter, a digit or another number, of any script. -/
def isLetterOrNumber (c : Char) : Bool :=
  if c.toNat < 0x80 then isPlain c
  else
    let n := c.toNat
    within alphabeticRanges n || within decimalRanges n || within otherNumberRanges n

end QuickFix.Text
