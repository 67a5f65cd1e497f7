import QuickFix.Diagnostic.Basic
import QuickFix.Json.Record

/-!
# Reading diagnostics and reports

Each record of a report with its drafts. Optional fields may be missing or `null`; a report without
diagnostics has none.
-/

set_option autoImplicit false

namespace QuickFix

open Json (Cause Fault Field Reader Record)

/-- A field that has to be there. -/
def required {α : Type} (name : String) : Option α → Except Cause α
  | some a => .ok a
  | none => .error (.missingField name)

/-- A position being read. -/
structure PositionDraft where
  line : Option UInt32 := none
  character : Option UInt32 := none

/-- The record of a position. -/
def positionRecord : Record PositionDraft Position :=
  { name := "Position"
    fields :=
      [.of "line" (·.line) (fun d v => { d with line := some v }) (fun _ => Json.word32) false,
       .of "character" (·.character) (fun d v => { d with character := some v })
        (fun _ => Json.word32) false]
    empty := {}
    finish := fun d => do .ok ⟨← required "line" d.line, ← required "character" d.character⟩ }

/-- A range being read. -/
structure RangeDraft where
  start : Option Position := none
  stop : Option Position := none

/-- The record of a range. -/
def rangeRecord (rounds : Nat) : Record RangeDraft Range :=
  { name := "Range"
    fields :=
      [.of "start" (·.start) (fun d v => { d with start := some v })
        (positionRecord.read rounds) false,
       .of "end" (·.stop) (fun d v => { d with stop := some v })
        (positionRecord.read rounds) false]
    empty := {}
    finish := fun d => do .ok ⟨← required "start" d.start, ← required "end" d.stop⟩ }

/-- A URI. A string that is none is a loose fault. -/
def readUri : Reader Uri := fun s => do
  let (text, rest) ← Json.text s
  match Uri.parse text with
  | .ok uri => .ok (uri, rest)
  | .error refusal => .error (.loose (.refused (Uri.refusalMessage text refusal)) rest)

/-- The code that a value is: a 32-bit whole number or a string. -/
def DiagnosticCode.ofJson? : Json → Option DiagnosticCode
  | .number (.natural n) =>
    if n.toNat < 0x80000000 then some (.number (Int32.ofInt n.toNat)) else none
  | .number (.negative n) =>
    if n.val < 0x80000000 then some (.number (Int32.ofInt (Int.negSucc n.val))) else none
  | .string s => some (.name s)
  | _ => none

/-- A code. A value of another kind is a loose fault. -/
def readCode (rounds levels : Nat) : Reader DiagnosticCode := fun s => do
  let (v, rest) ← Json.value rounds levels s
  match DiagnosticCode.ofJson? v with
  | some code => .ok (code, rest)
  | none =>
    .error (.loose (.refused "data did not match any variant of untagged enum NumberOrString") rest)

/-- The record that holds where a code is explained. -/
def codeDescriptionRecord : Record (Option Uri) Uri :=
  { name := "CodeDescription"
    fields := [.of "href" id (fun _ v => some v) (fun _ => readUri) false]
    empty := none
    finish := required "href" }

/-- A location being read. -/
structure LocationDraft where
  uri : Option Uri := none
  range : Option Range := none

/-- The record of a location. -/
def locationRecord (rounds : Nat) : Record LocationDraft Location :=
  { name := "Location"
    fields :=
      [.of "uri" (·.uri) (fun d v => { d with uri := some v }) (fun _ => readUri) false,
       .of "range" (·.range) (fun d v => { d with range := some v })
        ((rangeRecord rounds).read rounds) false]
    empty := {}
    finish := fun d => do .ok ⟨← required "uri" d.uri, ← required "range" d.range⟩ }

/-- A further place being read. -/
structure RelatedDraft where
  location : Option Location := none
  message : Option String := none

/-- The record of a further place. -/
def relatedRecord (rounds : Nat) : Record RelatedDraft RelatedInformation :=
  { name := "DiagnosticRelatedInformation"
    fields :=
      [.of "location" (·.location) (fun d v => { d with location := some v })
        ((locationRecord rounds).read rounds) false,
       .of "message" (·.message) (fun d v => { d with message := some v })
        (fun _ => Json.text) false]
    empty := {}
    finish := fun d => do
      .ok ⟨← required "location" d.location, ← required "message" d.message⟩ }

/-- A diagnostic being read. A field that is there may still hold nothing. -/
structure DiagnosticDraft where
  range : Option Range := none
  severity : Option (Option Int32) := none
  code : Option (Option DiagnosticCode) := none
  codeDescription : Option (Option Uri) := none
  source : Option (Option String) := none
  message : Option String := none
  relatedInformation : Option (Option (List RelatedInformation)) := none
  tags : Option (Option (List Int32)) := none
  data : Option (Option Json) := none

/-- The record of a diagnostic. -/
def diagnosticRecord (rounds : Nat) : Record DiagnosticDraft Diagnostic :=
  { name := "Diagnostic"
    fields :=
      [.of "range" (·.range) (fun d v => { d with range := some v })
        ((rangeRecord rounds).read rounds) false,
       .of "severity" (·.severity) (fun d v => { d with severity := some v })
        (fun _ => Json.optional Json.int32) false,
       .of "code" (·.code) (fun d v => { d with code := some v })
        (fun levels => Json.optional (readCode rounds levels)) false,
       .of "codeDescription" (·.codeDescription) (fun d v => { d with codeDescription := some v })
        (fun levels => Json.optional (codeDescriptionRecord.read rounds levels)) false,
       .of "source" (·.source) (fun d v => { d with source := some v })
        (fun _ => Json.optional Json.text) false,
       .of "message" (·.message) (fun d v => { d with message := some v })
        (fun _ => Json.text) false,
       .of "relatedInformation" (·.relatedInformation)
        (fun d v => { d with relatedInformation := some v })
        (fun levels => Json.optional (Json.list rounds ((relatedRecord rounds).read rounds) levels))
        false,
       .of "tags" (·.tags) (fun d v => { d with tags := some v })
        (fun levels => Json.optional (Json.list rounds (fun _ => Json.int32) levels)) false,
       .of "data" (·.data) (fun d v => { d with data := some v })
        (fun levels => Json.optional (Json.value rounds levels)) false]
    empty := {}
    finish := fun d => do
      let range ← required "range" d.range
      let message ← required "message" d.message
      .ok
        { range := range
          severity := d.severity.join
          code := d.code.join
          codeDescription := d.codeDescription.join
          source := d.source.join
          message := message
          relatedInformation := d.relatedInformation.join
          tags := d.tags.join
          data := d.data.join } }

/-- A report being read. -/
structure ReportDraft where
  path : Option String := none
  diagnostics : Option (List Diagnostic) := none

/-- The record of a report. -/
def reportRecord (rounds : Nat) : Record ReportDraft Report :=
  { name := "DiagnosticsDocument"
    fields :=
      [.of "path" (·.path) (fun d v => { d with path := some v }) (fun _ => Json.text) false,
       .of "diagnostics" (·.diagnostics) (fun d v => { d with diagnostics := some v })
        (Json.list rounds ((diagnosticRecord rounds).read rounds)) true]
    empty := {}
    finish := fun d => do .ok ⟨← required "path" d.path, d.diagnostics.getD []⟩ }

/-- The report that a text holds. -/
def Report.parse (text : List Char) : Except Fault Report :=
  Json.document ((reportRecord text.length).read text.length Json.deepest) text

end QuickFix
