import QuickFix.Json.Value
import QuickFix.Numeral.Shortest

/-!
# Writing JSON

One writer for both forms of a value: a layout says what stands where a line may break and between a
key and its value. The compact layout puts nothing there but the colon; the indented one starts a
new line for every item and member, two spaces deeper than the container.
-/

set_option autoImplicit false

namespace QuickFix.Json

/-- The white space of a written value: at a line break of the given depth, and behind a key. -/
structure Layout where
  lineBreak : Nat → List Char
  colon : List Char

/-- Everything on one line. -/
def Layout.compact : Layout :=
  { lineBreak := fun _ => []
    colon := [':'] }

/-- A line for every item and member. -/
def Layout.indented : Layout :=
  { lineBreak := fun depth => '\n' :: List.replicate (2 * depth) ' '
    colon := [':', ' '] }

/-- Doubles have their digits in place from `10^-5` up to `10^16`. -/
def decimals : Numeral.Layout :=
  { least := -5
    bound := 16 }

/-- A number as text. -/
def Number.write : Number → List Char
  | .natural n => Numeral.digits n.toNat
  | .negative n => '-' :: Numeral.digits (n.val + 1)
  | .float x => decimals.write x

/-- The lower-case hexadecimal digit of a number below sixteen. -/
def hexDigit (n : Nat) : Char :=
  if n < 10 then Char.ofNat ('0'.toNat + n) else Char.ofNat ('a'.toNat + (n - 10))

/-- A character inside a string. Only the quote, the backslash and controls are escaped. -/
def escaped (c : Char) : List Char :=
  if c = '"' then ['\\', '"']
  else if c = '\\' then ['\\', '\\']
  else if c = '\n' then ['\\', 'n']
  else if c = '\r' then ['\\', 'r']
  else if c = '\t' then ['\\', 't']
  else if c.toNat = 0x08 then ['\\', 'b']
  else if c.toNat = 0x0C then ['\\', 'f']
  else if c.toNat < 0x20 then
    ['\\', 'u', '0', '0', hexDigit (c.toNat / 16), hexDigit (c.toNat % 16)]
  else [c]

/-- A string with its quotes. -/
def writeString (s : String) : List Char :=
  '"' :: s.toList.flatMap escaped ++ ['"']

mutual

/-- A value as text, at the given depth. -/
def write (l : Layout) (depth : Nat) : Json → List Char
  | .null => ['n', 'u', 'l', 'l']
  | .bool true => ['t', 'r', 'u', 'e']
  | .bool false => ['f', 'a', 'l', 's', 'e']
  | .number n => n.write
  | .string s => writeString s
  | .array [] => ['[', ']']
  | .array (v :: vs) =>
    '[' :: l.lineBreak (depth + 1) ++ write l (depth + 1) v ++ writeItems l (depth + 1) vs ++
      l.lineBreak depth ++ [']']
  | .object [] => ['{', '}']
  | .object ((k, v) :: ms) =>
    '{' :: l.lineBreak (depth + 1) ++ writeString k ++ l.colon ++ write l (depth + 1) v ++
      writeMembers l (depth + 1) ms ++ l.lineBreak depth ++ ['}']

/-- The items behind the first one, each behind a comma. -/
def writeItems (l : Layout) (depth : Nat) : List Json → List Char
  | [] => []
  | v :: vs => ',' :: l.lineBreak depth ++ write l depth v ++ writeItems l depth vs

/-- The members behind the first one, each behind a comma. -/
def writeMembers (l : Layout) (depth : Nat) : List (String × Json) → List Char
  | [] => []
  | (k, v) :: ms =>
    ',' :: l.lineBreak depth ++ writeString k ++ l.colon ++ write l depth v ++
      writeMembers l depth ms

end

/-- A value as text. -/
def render (l : Layout) (v : Json) : String :=
  String.ofList (write l 0 v)

end QuickFix.Json
