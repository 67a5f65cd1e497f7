import QuickFix.Text.Blank

/-!
# Pieces of a text

A text is cut at every character of a class into pieces; words and lines are what cutting at blanks
and at line feeds leaves.
-/

set_option autoImplicit false

namespace QuickFix.Text

/-- The pieces between the characters that satisfy `p`: one more than there are such characters, so
never none. -/
def pieces (p : Char → Bool) : List Char → List (List Char)
  | [] => [[]]
  | c :: s =>
    if p c then [] :: pieces p s
    else
      match pieces p s with
      | [] => [[c]]
      | w :: ws => (c :: w) :: ws

/-- The maximal runs of characters that are not blank. -/
def words (s : List Char) : List (List Char) :=
  (pieces isBlank s).filter fun w => !w.isEmpty

/-- A line without the one carriage return it may end with. -/
def dropReturn (line : List Char) : List Char :=
  if line.getLast? = some '\r' then line.dropLast else line

/-- The lines among pieces cut at line feeds: every piece but the last was ended by a line feed and
loses one carriage return before it; the last one counts only if it holds something. -/
def endedLines : List (List Char) → List (List Char)
  | [] => []
  | [final] => if final.isEmpty then [] else [final]
  | line :: more => dropReturn line :: endedLines more

/-- The lines of a text. A line feed, with or without a carriage return before it, ends a line. -/
def lines (s : List Char) : List (List Char) :=
  endedLines (pieces (· == '\n') s)

end QuickFix.Text
