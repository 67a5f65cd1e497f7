import QuickFix.Pattern.Read

/-!
# Usable patterns

Not every pattern can be used. One that is nested too deep is refused, and so is one that could
match a part of a character: with characters beyond ASCII switched off, a class has to hold ASCII
characters alone, while a character that is written out stays whole. Words of all scripts cannot be
told apart at their edges.
-/

set_option autoImplicit false

namespace QuickFix.Pattern

/-- How deep a pattern may be nested. -/
def deepest : Nat := 250

/-- The letters of the general categories. -/
def categoryLetters : List Char :=
  ['c', 'l', 'm', 'n', 'p', 's', 'z']

/-- Whether an atom can be used, with characters beyond ASCII switched on or off. -/
def Atom.isSound (unicode : Bool) : Atom → Bool
  | .literal _ => true
  | .octet c => unicode || c.toNat < 0x80
  | .any => unicode
  | .edge | .wordEdge => true
  | .shorthand negated => unicode || !negated
  | .category name => unicode && categoryLetters.contains (Text.lower name)

mutual

/-- Whether a class can be used. -/
def Class.isSound (unicode : Bool) : Class → Bool
  | .empty => true
  | .atom a => a.isSound unicode
  | .range a b => unicode || (a.toNat < 0x80 && b.toNat < 0x80)
  | .named negated => unicode || !negated
  | .nested negated c => (unicode || !negated) && c.isSound unicode
  | .union cs => Class.areSound unicode cs
  | .combined a b => a.isSound unicode && b.isSound unicode

/-- Whether classes can be used. -/
def Class.areSound (unicode : Bool) : List Class → Bool
  | [] => true
  | c :: cs => c.isSound unicode && Class.areSound unicode cs

end

/-- What is known of a pattern up to a place. -/
structure Survey where
  /-- Whether characters beyond ASCII are meant from here on. -/
  unicode : Bool := true
  sound : Bool := true
  /-- Whether the edge of a word of any script was asked for. -/
  wordEdge : Bool := false

/-- What is known behind an atom. -/
def Survey.atom (s : Survey) (a : Atom) : Survey :=
  { s with
    sound := s.sound && a.isSound s.unicode
    wordEdge := s.wordEdge || (s.unicode && a == .wordEdge) }

mutual

/-- What is known behind a pattern. Modes last to the end of the group they stand in. -/
def Expr.survey : Expr → Survey → Survey
  | .empty, s => s
  | .modes m, s => { s with unicode := m.unicode.getD s.unicode }
  | .atom a, s => s.atom a
  | .bracket negated c, s =>
    { s with sound := s.sound && (s.unicode || !negated) && c.isSound s.unicode }
  | .repeated e, s => e.survey s
  | .group m e, s =>
    { e.survey { s with unicode := m.unicode.getD s.unicode } with unicode := s.unicode }
  | .alternatives es, s => Expr.surveyAll es s
  | .sequence es, s => Expr.surveyAll es s

/-- What is known behind patterns. -/
def Expr.surveyAll : List Expr → Survey → Survey
  | [], s => s
  | e :: es, s => Expr.surveyAll es (e.survey s)

end

/-- Why a text cannot be used as a pattern. -/
inductive Fault
  | malformed
  | wordEdge
  deriving DecidableEq, Repr

/-- The fault in words. -/
def Fault.message : Fault → String
  | .malformed => "error building NFA"
  | .wordEdge =>
    "unsupported regex feature for DFAs: cannot build DFAs for regexes with Unicode word " ++
      "boundaries; switch to ASCII word boundaries, or heuristically enable Unicode word " ++
      "boundaries or use a different regex engine"

/-- What keeps a text from being used as a pattern. -/
def fault? (s : List Char) : Option Fault :=
  match read? s with
  | none => some .malformed
  | some e =>
    let found := e.survey {}
    if deepest < e.depth || !found.sound then some .malformed
    else if found.wordEdge then some .wordEdge
    else none

end QuickFix.Pattern
