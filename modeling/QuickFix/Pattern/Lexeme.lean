import QuickFix.Numeral.Natural
import QuickFix.Pattern.Basic

/-!
# The least parts of patterns

Blanks and comments, which are left out in one of the modes, and what a backslash begins.
-/

set_option autoImplicit false

namespace QuickFix.Pattern

/-- The text behind blanks and comments. A comment lasts from a number sign to the end of its
line. -/
def skipBlanks : (inComment : Bool) → List Char → List Char
  | _, [] => []
  | true, c :: s => skipBlanks (c != '\n') s
  | false, c :: s =>
    if Text.isBlank c then skipBlanks false s
    else if c == '#' then skipBlanks true s
    else c :: s

/-- The text behind what is left out in this mode. -/
def skip (spaced : Bool) (s : List Char) : List Char :=
  if spaced then skipBlanks false s else s

/-- The character that comes next, blanks aside in this mode. Only the sign of a comment is passed
over, and nothing is if nothing else follows. -/
def peek (spaced : Bool) (s : List Char) : Option Char :=
  if spaced then
    let behind := match s.dropWhile Text.isBlank with
      | '#' :: t => t.dropWhile Text.isBlank
      | t => t
    behind.head? <|> s.head?
  else s.head?

/-- A number of hexadecimal digits, taken into a value. -/
def hexFigures (spaced : Bool) : (count value : Nat) → List Char → Option (Nat × List Char)
  | 0, value, s => some (value, s)
  | _ + 1, _, [] => none
  | count + 1, value, c :: s => do
    hexFigures spaced count (value * 16 + (← Numeral.hexValue? c)) (skip spaced s)

/-- The character with a number given by so many hexadecimal digits. -/
def numbered (spaced : Bool) (count : Nat) (s : List Char) : Option (Char × List Char) := do
  let (n, rest) ← hexFigures spaced count 0 (skip spaced s)
  if n.isValidChar then some (Char.ofNat n, rest) else none

/-- A category by its letter. -/
def categoryAt (spaced : Bool) (s : List Char) : Option (Atom × List Char) :=
  match skip spaced s with
  | [] => none
  | c :: t => if c == '{' || c == '\\' then none else some (.category c, skip spaced t)

/-- Whether a backslash before the character only takes a special meaning away. -/
def isEscapable (c : Char) : Bool :=
  c.toNat < 0x80 && !Text.isPlain c && c != '<' && c != '>'

/-- What a backslash begins. -/
def escape (spaced : Bool) : List Char → Option (Atom × List Char)
  | [] => none
  | c :: s =>
    if c == 'x' then (numbered spaced 2 s).map fun (d, t) => (.octet d, t)
    else if c == 'u' then (numbered spaced 4 s).map fun (d, t) => (.literal d, t)
    else if c == 'U' then (numbered spaced 8 s).map fun (d, t) => (.literal d, t)
    else if c == 'p' || c == 'P' then categoryAt spaced s
    else if c == 'd' || c == 's' || c == 'w' then some (.shorthand false, s)
    else if c == 'D' || c == 'S' || c == 'W' then some (.shorthand true, s)
    else if isEscapable c then some (.literal c, s)
    else if c == 'a' then some (.literal '\x07', s)
    else if c == 'f' then some (.literal '\x0c', s)
    else if c == 't' then some (.literal '\t', s)
    else if c == 'n' then some (.literal '\n', s)
    else if c == 'r' then some (.literal '\r', s)
    else if c == 'v' then some (.literal '\x0b', s)
    else if c == 'A' || c == 'z' then some (.edge, s)
    else if c == 'b' then if s.head? == some '{' then none else some (.wordEdge, s)
    else if c == 'B' || c == '<' || c == '>' then some (.wordEdge, s)
    else none

end QuickFix.Pattern
