import QuickFix.Pattern.Lexeme
import QuickFix.Text.Match

/-!
# Classes between brackets

A class lists characters, ranges, named classes and further classes in brackets; two ampersands,
hyphens or tildes join two lists by an operation. A hyphen at the start and a bracket as the very
first character stand for themselves.
-/

set_option autoImplicit false

namespace QuickFix.Pattern

/-- The names of classes of ASCII characters. -/
def classNames : List String :=
  ["alnum", "alpha", "ascii", "blank", "cntrl", "digit", "graph", "lower", "print", "punct",
   "space", "upper", "word", "xdigit"]

/-- A named class behind its opening bracket: a name between colons and a closing bracket. -/
def namedClass? (s : List Char) : Option (Class × List Char) := do
  let s ← Text.after? [':'] s
  let (negated, s) := match s with
    | '^' :: t => (true, t)
    | t => (false, t)
  let (name, s) ← Text.cut? ':' s
  let s ← Text.after? [']'] s
  if classNames.any fun n => n.toList == name then some (.named negated, s) else none

/-- What one character or escape of a class stands for. -/
def classAtom (spaced : Bool) : List Char → Option (Atom × List Char)
  | [] => none
  | '\\' :: s => escape spaced s
  | c :: s => some (.literal c, s)

/-- The class of an atom, if a class may hold it. -/
def Atom.toClass? : Atom → Option Class
  | .literal c | .octet c => some (.single c)
  | .shorthand negated => some (.atom (.shorthand negated))
  | .category name => some (.atom (.category name))
  | _ => none

/-- The character that an atom stands for. -/
def Atom.character? : Atom → Option Char
  | .literal c | .octet c => some c
  | _ => none

/-- The range between two atoms, which have to be characters in ascending order. -/
def rangeOf? (first last : Atom) : Option Class := do
  let a ← first.character?
  let b ← last.character?
  if a ≤ b then some (.range a b) else none

/-- One item of a class, which may be a range. -/
def classItem (spaced : Bool) (s : List Char) : Option (Class × List Char) := do
  let (first, s) ← classAtom spaced s
  match skip spaced s with
  | [] => none
  | '-' :: t =>
    let next := peek spaced t
    if next == some ']' || next == some '-' then some (← first.toClass?, '-' :: t)
    else
      let (last, rest) ← classAtom spaced (skip spaced t)
      some (← rangeOf? first last, rest)
  | t => some (← first.toClass?, t)

/-- The hyphens that a class starts with. -/
def openingHyphens (spaced : Bool) : (rounds : Nat) → List Class → List Char →
    List Class × List Char
  | rounds + 1, items, '-' :: s =>
    openingHyphens spaced rounds (.single '-' :: items) (skip spaced s)
  | _, items, s => (items, s)

/-- The start of a class behind its opening bracket: whether it is negated, and the first items. -/
def openClass (spaced : Bool) (s : List Char) : Bool × List Class × List Char :=
  let s := skip spaced s
  let (negated, s) := match s with
    | '^' :: t => (true, skip spaced t)
    | t => (false, t)
  match openingHyphens spaced s.length [] s with
  | ([], ']' :: t) => (negated, [.single ']'], skip spaced t)
  | (items, t) => (negated, items, t)

/-- A class that is being read: the operand before, and the items of this one, the latest first. -/
structure OpenClass where
  negated : Bool
  left : Option Class := none
  items : List Class := []

/-- What has been read of a class, as one class. -/
def OpenClass.whole (c : OpenClass) : Class :=
  .combine c.left (.ofItems c.items)

/-- The class with one more item. -/
def OpenClass.add (c : OpenClass) (item : Class) : OpenClass :=
  { c with items := item :: c.items }

/-- The class behind the sign of an operation. -/
def OpenClass.operate (c : OpenClass) : OpenClass :=
  { c with left := some c.whole, items := [] }

/-- The rest of a class that is inside the classes `outer`. -/
def classRest (spaced : Bool) : (rounds : Nat) → OpenClass → (outer : List OpenClass) →
    List Char → Option (Expr × List Char)
  | 0, _, _, _ => none
  | rounds + 1, c, outer, s =>
    match skip spaced s with
    | [] => none
    | '[' :: t =>
      match namedClass? t with
      | some (item, rest) => classRest spaced rounds (c.add item) outer rest
      | none =>
        let (negated, items, rest) := openClass spaced t
        classRest spaced rounds ⟨negated, none, items⟩ (c :: outer) rest
    | ']' :: t =>
      match outer with
      | [] => some (.bracket c.negated c.whole, t)
      | o :: more => classRest spaced rounds (o.add (.nested c.negated c.whole)) more t
    | '&' :: '&' :: t => classRest spaced rounds c.operate outer t
    | '-' :: '-' :: t => classRest spaced rounds c.operate outer t
    | '~' :: '~' :: t => classRest spaced rounds c.operate outer t
    | t =>
      match classItem spaced t with
      | some (item, rest) => classRest spaced rounds (c.add item) outer rest
      | none => none

/-- A class behind its opening bracket. -/
def bracket (spaced : Bool) (s : List Char) : Option (Expr × List Char) :=
  let (negated, items, rest) := openClass spaced s
  classRest spaced (s.length + 1) ⟨negated, none, items⟩ [] rest

end QuickFix.Pattern
