/-!
# Numerals of natural numbers

The digits that write a number, the number that digits stand for, and the numerals accepted for a
32-bit word.
-/

set_option autoImplicit false

namespace QuickFix.Numeral

/-- An ASCII decimal digit. -/
def isDigit (c : Char) : Bool :=
  '0' ≤ c && c ≤ '9'

/-- The value of a decimal digit. -/
def digitValue (c : Char) : Nat :=
  c.toNat - '0'.toNat

/-- The value of a hexadecimal digit. -/
def hexValue? (c : Char) : Option Nat :=
  if '0' ≤ c && c ≤ '9' then some (c.toNat - '0'.toNat)
  else if 'a' ≤ c && c ≤ 'f' then some (c.toNat - 'a'.toNat + 10)
  else if 'A' ≤ c && c ≤ 'F' then some (c.toNat - 'A'.toNat + 10)
  else none

/-- The decimal digits of a number, without leading zeros. -/
def digits (n : Nat) : List Char :=
  Nat.toDigits 10 n

/-- The number that decimal digits stand for. -/
def value (ds : List Char) : Nat :=
  ds.foldl (fun n c => n * 10 + digitValue c) 0

/-- The number written by an optional plus sign and one or more digits. -/
def natural? (s : List Char) : Option Nat :=
  let ds := match s with
    | '+' :: ds => ds
    | ds => ds
  if ds.isEmpty || !ds.all isDigit then none else some (value ds)

/-- The 32-bit word written by an optional plus sign and one or more digits. -/
def word32? (s : List Char) : Option UInt32 :=
  (natural? s).bind fun n => if n < 4294967296 then some (UInt32.ofNat n) else none

end QuickFix.Numeral
