import QuickFix.Text.Octets

/-!
# Arguments

An argument of the command line is a text that may hold octets which are no character.
-/

set_option autoImplicit false

namespace QuickFix.Command

/-- The characters of an argument, with `none` where its octets are no character. -/
abbrev Argument : Type := List (Option Char)

namespace Argument

/-- The argument that a text is. -/
def ofString (s : String) : Argument :=
  s.toList.map some

/-- The argument as a text, if it is one. -/
def text? (a : Argument) : Option String :=
  (Text.whole? a).map String.ofList

/-- The argument as it is shown in messages. -/
def shown (a : Argument) : String :=
  String.ofList (Text.shown a)

/-- The arguments before and behind the first occurrence of a character. -/
def cut (c : Char) : Argument → Argument × Option Argument
  | [] => ([], none)
  | x :: s =>
    if x = some c then ([], some s)
    else
      let (front, back) := cut c s
      (x :: front, back)

end Argument

end QuickFix.Command
