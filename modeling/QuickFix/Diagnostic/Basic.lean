import QuickFix.Json.Value
import QuickFix.Position
import QuickFix.Uri.Basic

/-!
# Diagnostics

What a checker reports about a range of a file. Only the range and the message are always there.
-/

set_option autoImplicit false

namespace QuickFix

/-- The code that a checker gives to a kind of diagnostic. -/
inductive DiagnosticCode
  | number (n : Int32)
  | name (s : String)

/-- A range of some file. -/
structure Location where
  uri : Uri
  range : Range

/-- A further place that has to do with a diagnostic. -/
structure RelatedInformation where
  location : Location
  message : String

/-- A report about a range of a file. -/
structure Diagnostic where
  range : Range
  severity : Option Int32 := none
  code : Option DiagnosticCode := none
  /-- Where the code is explained. -/
  codeDescription : Option Uri := none
  source : Option String := none
  message : String
  relatedInformation : Option (List RelatedInformation) := none
  tags : Option (List Int32) := none
  /-- What the checker wants to get back with a request. -/
  data : Option Json := none

/-- A file, named by a path or a URI, and its diagnostics. -/
structure Report where
  path : String
  diagnostics : List Diagnostic

end QuickFix
