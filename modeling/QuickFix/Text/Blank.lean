/-!
# Blank characters

The characters that stand for white space in a text, and the trimming of a text at its ends.
A text is handled as its list of characters, so that every operation is a recursion on data.
-/

set_option autoImplicit false

namespace QuickFix.Text

/-- The code points with the White_Space property: the controls tab to carriage return, the space,
next line, the no-break space, and the separators of the higher planes. -/
def isBlank (c : Char) : Bool :=
  let n := c.toNat
  (0x09 ≤ n && n ≤ 0x0D) || n == 0x20 || n == 0x85 || n == 0xA0 || n == 0x1680 ||
    (0x2000 ≤ n && n ≤ 0x200A) || n == 0x2028 || n == 0x2029 || n == 0x202F || n == 0x205F ||
    n == 0x3000

/-- The text without the blanks it starts with. -/
def trimStart (s : List Char) : List Char :=
  s.dropWhile isBlank

/-- The text without the blanks it ends with. -/
def trimEnd (s : List Char) : List Char :=
  (s.reverse.dropWhile isBlank).reverse

/-- The text without the blanks at its two ends. -/
def trim (s : List Char) : List Char :=
  trimEnd (trimStart s)

end QuickFix.Text
