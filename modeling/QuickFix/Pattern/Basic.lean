import QuickFix.Text.Blank
import QuickFix.Text.Word

/-!
# Patterns

A pattern describes texts: characters and classes of them, one after the other, repeated, or as
alternatives. A pattern stands inside a log filter, where the comma, the equals sign and the closing
brace have a meaning of their own; so none of the forms that need a closing brace can be written.
-/

set_option autoImplicit false

namespace QuickFix.Pattern

/-- The least part of a pattern. -/
inductive Atom
  | literal (c : Char)
  /-- A character by the two digits of its number. It is a single octet where characters beyond
  ASCII are switched off. -/
  | octet (c : Char)
  /-- Any character of a line. -/
  | any
  /-- The start or the end of a text or line. -/
  | edge
  /-- A place where a word starts or ends, or one where none does. -/
  | wordEdge
  /-- Digits, blanks or word characters, or all others. -/
  | shorthand (negated : Bool)
  /-- A general category by its letter. -/
  | category (name : Char)
  deriving DecidableEq, Repr

/-- Modes that a pattern switches. -/
structure Modes where
  /-- Whether blanks and comments are left out. -/
  spaced : Option Bool := none
  /-- Whether characters beyond ASCII are meant too. -/
  unicode : Option Bool := none
  deriving DecidableEq, Repr

/-- A set of characters between brackets. -/
inductive Class
  | empty
  | atom (a : Atom)
  | range (first last : Char)
  /-- One of the named classes of ASCII characters. -/
  | named (negated : Bool)
  | nested (negated : Bool) (inner : Class)
  | union (items : List Class)
  /-- An intersection or a difference. -/
  | combined (left right : Class)

/-- A pattern. -/
inductive Expr
  | empty
  | modes (m : Modes)
  | atom (a : Atom)
  | bracket (negated : Bool) (inner : Class)
  | repeated (e : Expr)
  | group (m : Modes) (e : Expr)
  | alternatives (es : List Expr)
  | sequence (es : List Expr)

/-- The class of one character. -/
def Class.single (c : Char) : Class :=
  .range c c

/-- The class of all items, which are given the latest first. -/
def Class.ofItems : List Class → Class
  | [] => .empty
  | [c] => c
  | cs => .union cs.reverse

/-- The class of an operand and the one before it, if there is one. -/
def Class.combine (left : Option Class) (right : Class) : Class :=
  match left with
  | none => right
  | some c => .combined c right

/-- The pattern of all parts, which are given the latest first. -/
def Expr.ofItems : List Expr → Expr
  | [] => .empty
  | [e] => e
  | es => .sequence es.reverse

mutual

/-- How deep a class is nested. -/
def Class.depth : Class → Nat
  | .nested _ c => c.depth + 1
  | .union cs => Class.depths cs + 1
  | .combined a b => max a.depth b.depth + 1
  | _ => 0

/-- How deep the deepest of some classes is nested. -/
def Class.depths : List Class → Nat
  | [] => 0
  | c :: cs => max c.depth (Class.depths cs)

end

mutual

/-- How deep a pattern is nested. -/
def Expr.depth : Expr → Nat
  | .bracket _ c => c.depth + 1
  | .repeated e => e.depth + 1
  | .group _ e => e.depth + 1
  | .alternatives es => Expr.depths es + 1
  | .sequence es => Expr.depths es + 1
  | _ => 0

/-- How deep the deepest of some patterns is nested. -/
def Expr.depths : List Expr → Nat
  | [] => 0
  | e :: es => max e.depth (Expr.depths es)

end

end QuickFix.Pattern
