/-!
# Scaling a significand by a power of ten

The value of a numeral with a fraction or an exponent: its significand as a double, multiplied or
divided once by the double nearest to the power of ten. Powers beyond the greatest one are divided
off in steps.
-/

set_option autoImplicit false

namespace QuickFix.Numeral

/-- The greatest power of ten below the largest double. -/
def greatestPower : Nat := 308

/-- The double nearest to a power of ten. -/
def tenTo (n : Nat) : Float :=
  Float.ofScientific 1 false n

/-- The double divided by a power of ten, in steps of the greatest power. -/
def divided (x : Float) (n : Nat) : Float :=
  if n ≤ greatestPower then x / tenTo n
  else if x == 0 then x
  else divided (x / tenTo greatestPower) (n - greatestPower)
termination_by n
decreasing_by
  simp only [greatestPower] at *
  omega

/-- The significand times a power of ten, unless that leaves the range of doubles. -/
def scaled? (significand : UInt64) (exponent : Int) : Option Float :=
  let x := significand.toFloat
  match exponent with
  | .ofNat n =>
    if n ≤ greatestPower then
      let y := x * tenTo n
      if y.isInf then none else some y
    else if x == 0 then some x
    else none
  | .negSucc n => some (divided x (n + 1))

end QuickFix.Numeral
