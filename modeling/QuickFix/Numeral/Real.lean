import QuickFix.Numeral.Natural
import QuickFix.Text.Word

/-!
# Real numbers as text

The texts that stand for a real number: digits with a point and an exponent, or the names of what is
not finite.
-/

set_option autoImplicit false

namespace QuickFix.Numeral

/-- The text behind a sign that it may start with. -/
def unsigned : List Char → List Char
  | '+' :: s => s
  | '-' :: s => s
  | s => s

/-- Whether the text is digits only, and at least one. -/
def isDigits (s : List Char) : Bool :=
  !s.isEmpty && s.all isDigit

/-- Whether the text is nothing, or an exponent. -/
def isExponent : List Char → Bool
  | [] => true
  | c :: s => (c == 'e' || c == 'E') && isDigits (unsigned s)

/-- Whether the text is a finite number without a sign: digits on at least one side of a point that
may be left out, and an exponent that may be left out. -/
def isFinite (s : List Char) : Bool :=
  let whole := s.takeWhile isDigit
  let rest := s.dropWhile isDigit
  match rest with
  | '.' :: t =>
    let fraction := t.takeWhile isDigit
    !(whole.isEmpty && fraction.isEmpty) && isExponent (t.dropWhile isDigit)
  | _ => !whole.isEmpty && isExponent rest

/-- The names of what is not finite. -/
def infiniteNames : List String :=
  ["inf", "infinity", "nan"]

/-- Whether the text is a real number. -/
def isReal (s : List Char) : Bool :=
  let s := unsigned s
  isFinite s || infiniteNames.any fun name => name.toList == s.map Text.lower

end QuickFix.Numeral
