import QuickFix.Numeral.Natural

/-!
# The shortest decimal of a double

A double stands for every real number that rounds to it. Among the decimals in that interval the
shortest are looked for, by exact arithmetic on natural numbers: on the grid of decimals with one
digit, then two, and so on, the two neighbours of the double are tested. Seventeen digits always
suffice.
-/

set_option autoImplicit false

namespace QuickFix.Numeral

/-- A decimal number: figures `d₁ d₂ …` and the exponent of ten that belongs to `d₁`. -/
structure Decimal where
  figures : List Char
  exponent : Int
  deriving Repr

/-- The interval of a positive double as fractions with one denominator: its ends, whether the ends
round to it too, and the double itself. -/
structure Interval where
  low : Nat
  high : Nat
  mid : Nat
  den : Nat
  closed : Bool

/-- The interval of the double `m · 2^q`. Just above a power of two the lower neighbour is only half
as far away, unless the exponent is the least one. -/
def Interval.ofParts (m : Nat) (q : Int) (narrow : Bool) : Interval :=
  let up := Nat.pow 2 (q - 2).toNat
  { low := (4 * m - if narrow then 1 else 2) * up
    high := (4 * m + 2) * up
    mid := 4 * m * up
    den := Nat.pow 2 (2 - q).toNat
    closed := m % 2 == 0 }

/-- How often `num / den` has to be multiplied by ten to reach one, up to a bound. -/
def shiftsToOne : (bound num den : Nat) → Nat
  | 0, _, _ => 0
  | bound + 1, num, den => if den ≤ num then 0 else shiftsToOne bound (num * 10) den + 1

/-- The exponent of ten of the first digit of `num / den`. -/
def leadingExponent (num den : Nat) : Int :=
  if den ≤ num then ((Nat.toDigits 10 (num / den)).length : Int) - 1
  else -(shiftsToOne 400 num den : Int)

/-- The numerator of `k · 10^t` over the denominator of the interval, scaled by `scaleOf t`. -/
def Interval.gridPoint (i : Interval) (k : Nat) (t : Int) : Nat :=
  k * Nat.pow 10 t.toNat * i.den

/-- The factor that clears the denominator of `10^t`. -/
def scaleOf (t : Int) : Nat :=
  Nat.pow 10 (-t).toNat

/-- Whether `k · 10^t` rounds to the double. -/
def Interval.holds (i : Interval) (k : Nat) (t : Int) : Bool :=
  let p := i.gridPoint k t
  let low := i.low * scaleOf t
  let high := i.high * scaleOf t
  if i.closed then low ≤ p && p ≤ high else low < p && p < high

/-- Of the two grid points around the double those that round to it, the nearer one first choice and
the even one in a tie. -/
def Interval.pick? (i : Interval) (t : Int) : Option Nat :=
  let mid := i.mid * scaleOf t
  let k := mid / i.gridPoint 1 t
  match i.holds k t, i.holds (k + 1) t with
  | false, false => none
  | true, false => some k
  | false, true => some (k + 1)
  | true, true =>
    let below := mid - i.gridPoint k t
    let above := i.gridPoint (k + 1) t - mid
    if below < above then some k
    else if above < below then some (k + 1)
    else some (if k % 2 == 0 then k else k + 1)

/-- The first grid, from the coarsest on, that has a point in the interval. -/
def Interval.select (i : Interval) (lead : Int) : (grids places : Nat) → Nat × Int
  | 0, places => (i.mid / i.den, lead + 1 - places)
  | grids + 1, places =>
    let t := lead + 1 - (places : Int)
    match i.pick? t with
    | some k => (k, t)
    | none => i.select lead grids (places + 1)

/-- The decimal `k · 10^t` without the zeros its digits end with. -/
def Decimal.ofGrid (k : Nat) (t : Int) : Decimal :=
  let ds := Nat.toDigits 10 k
  { figures := (ds.reverse.dropWhile (· == '0')).reverse
    exponent := t + ds.length - 1 }

/-- The shortest decimal that rounds to the positive double with this significand and exponent. -/
def shortestOfParts (m : Nat) (q : Int) (narrow : Bool) : Decimal :=
  let i := Interval.ofParts m q narrow
  let (k, t) := i.select (leadingExponent i.mid i.den) 17 1
  Decimal.ofGrid k t

/-- The shortest decimal that rounds to the magnitude of a double other than zero. -/
def shortest (x : Float) : Decimal :=
  let bits : Nat := x.toBits.toNat % 0x8000000000000000
  let fraction : Nat := bits % 0x10000000000000
  let field : Nat := bits / 0x10000000000000
  if field = 0 then shortestOfParts fraction (-1074) false
  else
    shortestOfParts (0x10000000000000 + fraction) ((field : Int) - 1075)
      (fraction == 0 && 1 < field)

/-- How decimals are laid out: the exponents written with the digits in place, from `least` up to
and without `bound`; all others stand behind a mark. -/
structure Layout where
  least : Int
  bound : Int

/-- A decimal with its digits in place and at least one digit behind the point. -/
def Decimal.positional (d : Decimal) : List Char :=
  match d.exponent with
  | .ofNat e =>
    let whole := d.figures.take (e + 1) ++ List.replicate (e + 1 - d.figures.length) '0'
    let fraction := d.figures.drop (e + 1)
    whole ++ '.' :: (if fraction.isEmpty then ['0'] else fraction)
  | .negSucc e => ['0', '.'] ++ List.replicate e '0' ++ d.figures

/-- A decimal with one digit before the point and a signed exponent. -/
def Decimal.scientific (d : Decimal) : List Char :=
  let fraction := d.figures.drop 1
  d.figures.take 1 ++ (if fraction.isEmpty then [] else '.' :: fraction) ++
    'e' :: (if d.exponent < 0 then '-' else '+') :: digits d.exponent.natAbs

/-- A finite double as text. -/
def Layout.write (l : Layout) (x : Float) : List Char :=
  let sign := if x.toBits.toNat < 0x8000000000000000 then [] else ['-']
  if x == 0 then sign ++ ['0', '.', '0']
  else
    let d := shortest x
    sign ++ if l.least ≤ d.exponent && d.exponent < l.bound then d.positional else d.scientific

end QuickFix.Numeral
