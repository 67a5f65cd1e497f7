/-!
# Concatenations

Lists of findings are built by going through another list in order and putting what its members
give one behind the other: lines give entries, diagnostics give the entries of their lines,
operations give the entries they leave in a catalog, and lines of a message give names.
`Concatenation gives xs ys` says this of any relation between a member and its part, without the
loop that does it. `concatenation_iff_eq_flatMap` is the one way from the relation to a
computation: where every member gives one part only, the concatenation is a `flatMap`.
-/

set_option autoImplicit false

namespace QuickFix

variable {α β : Type}

/-- `ys` is made of what the members of `xs` give, in the order of `xs`. -/
inductive Concatenation (gives : α → List β → Prop) : List α → List β → Prop
  | nil : Concatenation gives [] []
  | cons {x : α} {xs : List α} {part ys : List β} :
      gives x part → Concatenation gives xs ys → Concatenation gives (x :: xs) (part ++ ys)

/-- Where the part of every member is a function of the member, there is one concatenation, and it
is computed by going through the members. -/
theorem concatenation_iff_eq_flatMap {gives : α → List β → Prop} {f : α → List β}
    (h : ∀ x part, gives x part ↔ part = f x) (xs : List α) (ys : List β) :
    Concatenation gives xs ys ↔ ys = xs.flatMap f := by
  constructor
  · intro hc
    induction hc with
    | nil => rfl
    | cons hpart _ ih =>
        rw [List.flatMap_cons, ← ih, (h _ _).mp hpart]
  · intro hys
    subst hys
    induction xs with
    | nil => exact .nil
    | cons x xs ih =>
        rw [List.flatMap_cons]
        exact .cons ((h x (f x)).mpr rfl) ih

end QuickFix
