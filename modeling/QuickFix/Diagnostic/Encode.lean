import QuickFix.Diagnostic.Basic

/-!
# Diagnostics as JSON values

Members stand in a fixed order, and what is not there is left out.
-/

set_option autoImplicit false

namespace QuickFix

/-- A position as a value. -/
def Position.toJson (p : Position) : Json :=
  .object [("line", .ofNat p.line.toNat), ("character", .ofNat p.character.toNat)]

/-- A range as a value. -/
def Range.toJson (r : Range) : Json :=
  .object [("start", r.start.toJson), ("end", r.stop.toJson)]

/-- A code as a value. -/
def DiagnosticCode.toJson : DiagnosticCode → Json
  | .number n => .ofInt n.toInt
  | .name s => .string s

/-- A location as a value. -/
def Location.toJson (l : Location) : Json :=
  .object [("uri", .string l.uri.text), ("range", l.range.toJson)]

/-- A further place as a value. -/
def RelatedInformation.toJson (r : RelatedInformation) : Json :=
  .object [("location", r.location.toJson), ("message", .string r.message)]

/-- The member of an optional field: none if the field is not there. -/
def optionalMember {α : Type} (name : String) (encode : α → Json) (a : Option α) :
    List (String × Json) :=
  match a with
  | some a => [(name, encode a)]
  | none => []

/-- A diagnostic as a value. -/
def Diagnostic.toJson (d : Diagnostic) : Json :=
  .object <|
    [("range", d.range.toJson)] ++
    optionalMember "severity" (fun n => .ofInt n.toInt) d.severity ++
    optionalMember "code" DiagnosticCode.toJson d.code ++
    optionalMember "codeDescription" (fun u => .object [("href", .string u.text)])
      d.codeDescription ++
    optionalMember "source" .string d.source ++
    [("message", .string d.message)] ++
    optionalMember "relatedInformation" (fun rs => .array (rs.map RelatedInformation.toJson))
      d.relatedInformation ++
    optionalMember "tags" (fun ts => .array (ts.map fun n => .ofInt n.toInt)) d.tags ++
    optionalMember "data" id d.data

end QuickFix
