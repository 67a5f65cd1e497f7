import QuickFix.Action
import QuickFix.Text.Pieces

/-!
# Sites

A site is what the rules look at: the lines of a message and the range of a file they are about. The
diagnostic itself is carried along for the action's sake only.
-/

set_option autoImplicit false

namespace QuickFix

/-- The lines of a diagnostic's message, and the file and the range they are about. -/
structure Site where
  diagnostic : Diagnostic
  lines : List (List Char)
  uri : Uri
  range : Range

/-- The site of a diagnostic's own message and range. -/
def Site.ofDiagnostic (d : Diagnostic) (uri : Uri) : Site :=
  { diagnostic := d
    lines := Text.lines d.message.toList
    uri := uri
    range := d.range }

/-- A site of lines and a range alone: its diagnostic says nothing else, and its file is called
`a`. -/
def Site.bare (lines : List (List Char)) (range : Range) : Site :=
  { diagnostic := { range := range, message := "" }
    lines := lines
    uri := ⟨"a", by decide⟩
    range := range }

end QuickFix
