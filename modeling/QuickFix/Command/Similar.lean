/-!
# Similar words

How alike two words are, on a scale from zero to one: characters match if they are equal and not far
apart, and matches that come in another order count less. A misspelt word is answered with the most
similar known one, if that is similar enough.
-/

set_option autoImplicit false

namespace QuickFix.Command

/-- Marks the first character equal to `c` that is not marked yet and whose place lies from `low` up
to and without `high`; `j` is the place of the list's head. -/
def markFirst (c : Char) (low high : Nat) :
    (j : Nat) → List (Char × Bool) → Option (List (Char × Bool))
  | _, [] => none
  | j, (d, marked) :: rest =>
    if high ≤ j then none
    else if low ≤ j && d = c && !marked then some ((d, true) :: rest)
    else (markFirst c low high (j + 1) rest).map ((d, marked) :: ·)

/-- The characters of the first word that find a match, and the second word with its matches marked;
`i` is the place of the first list's head. -/
def matched (reach : Nat) :
    (i : Nat) → List Char → List (Char × Bool) → List Char × List (Char × Bool)
  | _, [], b => ([], b)
  | i, c :: a, b =>
    match markFirst c (i - reach) (i + reach + 1) 0 b with
    | some b' =>
      let (m, b'') := matched reach (i + 1) a b'
      (c :: m, b'')
    | none => matched reach (i + 1) a b

/-- How alike two words are. -/
def similarity (a b : List Char) : Float :=
  if a.isEmpty && b.isEmpty then 1
  else if a.isEmpty || b.isEmpty then 0
  else
    let reach := max a.length b.length / 2 - 1
    let (front, marks) := matched reach 0 a (b.map fun c => (c, false))
    let back := (marks.filter Prod.snd).map Prod.fst
    let count := front.length
    let swapped := ((front.zip back).filter fun p => p.1 ≠ p.2).length / 2
    if count = 0 then 0
    else
      (count.toFloat / a.length.toFloat + count.toFloat / b.length.toFloat +
        (count - swapped).toFloat / count.toFloat) / 3

/-- The most similar known word, the last one if several are equally so. -/
def mostSimilar? {α : Type} (name : α → String) (known : List α) (word : String) : Option α :=
  (known.foldl (fun (best : Option (α × Float)) a =>
    let s := similarity word.toList (name a).toList
    if 0.7 < s then
      match best with
      | some (_, t) => if t ≤ s then some (a, s) else best
      | none => some (a, s)
    else best) none).map Prod.fst

end QuickFix.Command
