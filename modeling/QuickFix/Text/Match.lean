/-!
# Matching literal text

What stands after a known beginning, before a known ending or around a character, and the leftmost
place where a reader of the text answers.
-/

set_option autoImplicit false

namespace QuickFix.Text

/-- What follows `p`, if the text starts with it. -/
def after? : (p s : List Char) → Option (List Char)
  | [], s => some s
  | _ :: _, [] => none
  | x :: p, c :: s => if c = x then after? p s else none

/-- What precedes `p`, if the text ends with it. -/
def before? (p s : List Char) : Option (List Char) :=
  (after? p.reverse s.reverse).map List.reverse

/-- The texts before and after the first `c`. -/
def cut? (c : Char) : List Char → Option (List Char × List Char)
  | [] => none
  | x :: s => if x = c then some ([], s) else (cut? c s).map fun r => (x :: r.1, r.2)

/-- The answer of `f` on the longest tail of the text where it gives one: the leftmost match. -/
def leftmost? {α : Type} (f : List Char → Option α) : List Char → Option α
  | [] => f []
  | c :: s =>
    match f (c :: s) with
    | some a => some a
    | none => leftmost? f s

/-- Whether `p` occurs somewhere in the text. -/
def occurs (p s : List Char) : Bool :=
  (leftmost? (after? p) s).isSome

end QuickFix.Text
