import QuickFix.Text.Extender
import QuickFix.Text.Unprintable
import QuickFix.Text.Word

/-!
# Quoted text in messages

A text shown inside a message stands between double quotes, with everything that would not be seen
as itself written as an escape.
-/

set_option autoImplicit false

namespace QuickFix.Text

/-- The hexadecimal digits of a number, in lower case and without leading zeros. -/
def hexDigits (n : Nat) : List Char :=
  Nat.toDigits 16 n

/-- A character that is seen as itself. -/
def isShown (c : Char) : Bool :=
  let n := c.toNat
  if n < 0x80 then 0x20 ≤ n && n ≤ 0x7E
  else !within extenderRanges n && !within unprintableRanges n

/-- The form of a character between quotes. -/
def quotedChar (c : Char) : List Char :=
  if c = '"' then ['\\', '"']
  else if c = '\\' then ['\\', '\\']
  else if c = '\t' then ['\\', 't']
  else if c = '\n' then ['\\', 'n']
  else if c = '\r' then ['\\', 'r']
  else if c.toNat = 0 then ['\\', '0']
  else if isShown c then [c]
  else ['\\', 'u', '{'] ++ hexDigits c.toNat ++ ['}']

/-- A text between double quotes. -/
def quoted (s : List Char) : List Char :=
  ['"'] ++ s.flatMap quotedChar ++ ['"']

end QuickFix.Text
