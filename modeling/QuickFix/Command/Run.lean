import QuickFix.Command.Options
import QuickFix.Diagnostic.Decode
import QuickFix.Log.Filter
import QuickFix.Uri.Path

/-!
# Running a command

A run reads its input, surveys the report's diagnostics and prints the fixes. It is a function of
its arguments and of what its surroundings would answer: what the input holds, and which streams can
be written. Everything that is written is part of the outcome.
-/

set_option autoImplicit false

namespace QuickFix.Command

/-- What becomes of log events. -/
inductive Logging
  /-- The run sets the log up by its own options. -/
  | own
  /-- The log was set up before, and goes elsewhere. -/
  | elsewhere

/-- What a run finds around it. A stream that does not work has a reason. -/
structure Surroundings where
  workingDirectory : List Char
  stdin : Except String (List UInt8)
  file : Argument → Except String (List UInt8)
  stdout : Except String Unit
  stderr : Except String Unit
  logging : Logging

/-- Why a run fails. -/
inductive Failure
  | usage (f : UsageFault)
  | filter (f : Log.FilterFault)
  | unreadable (source reason : String)
  | malformed (text : List Char) (f : Json.Fault)
  | unusablePath (path : String) (f : Uri.PathFault)
  | unwritable (reason : String)

/-- The report of a failure. -/
def Failure.report : Failure → String
  | .usage f => f.message
  | .filter f =>
    "mender: failed to initialise telemetry: invalid log filter: " ++ f.message ++ "\n"
  | .unreadable source reason => "mender: failed to read " ++ source ++ ": " ++ reason ++ "\n"
  | .malformed text f =>
    "mender: failed to parse diagnostics document: " ++ f.message text ++ "\n"
  | .unusablePath path f =>
    "mender: invalid document path '" ++ path ++ "': " ++ f.message ++ "\n"
  | .unwritable reason => "mender: failed to write code actions: " ++ reason ++ "\n"

/-- What a run wrote and how it ended. -/
structure Outcome where
  success : Bool
  stdout : String
  /-- The events that were logged, and the form of their lines. -/
  logged : List Log.Event
  format : Log.Format
  /-- What was written to the error stream besides the log. -/
  report : String

/-- All that was written to the error stream, the log lines with a time stamp. -/
def Outcome.stderr (o : Outcome) (stamp : String) : String :=
  String.join (o.logged.map (o.format.line stamp)) ++ o.report

/-- The text of the input. -/
def readInput (s : Surroundings) (input : Argument) : Except Failure (List Char) :=
  let fromStdin := input = [some '-']
  let source := if fromStdin then "<stdin>" else input.shown
  match if fromStdin then s.stdin else s.file input with
  | .error reason => .error (.unreadable source reason)
  | .ok octets =>
    match Text.whole? (Text.characters octets) with
    | some text => .ok text
    | none => .error (.unreadable source "stream did not contain valid UTF-8")

/-- An entry as a value. -/
def entryJson (e : Entry) : Json :=
  .object [("range", e.range.toJson), ("action", e.action.toJson)]

/-- The answer of a run: all entries of a file, or the actions at a cursor. -/
def answer (c : Catalog) (uri : Uri) (cursor : Option Position) : Json :=
  match cursor with
  | some p => .array ((c.actionsAt uri p).map Action.toJson)
  | none => .array ((c.entries uri).map entryJson)

/-- The layout of what is printed: on one line, unless a line for every item is asked for. -/
def layout (pretty : Bool) : Json.Layout :=
  if pretty then .indented else .compact

/-- The text that a run prints. -/
def answerText (c : Catalog) (uri : Uri) (cursor : Option Position) (pretty : Bool) : String :=
  Json.render (layout pretty) (answer c uri cursor) ++ "\n"

/-- The filter of a run's log. -/
def logFilter (s : Surroundings) (o : Options) : Except Failure Log.Filter :=
  match s.logging with
  | .own => (Log.Filter.parse o.logFilter.toList).mapError .filter
  | .elsewhere => .ok []

/-- The report that a run is about, and the URI of its file. -/
def readReport (s : Surroundings) (o : Options) : Except Failure (Report × Uri) := do
  let text ← readInput s o.input
  let report ← (Report.parse text).mapError (.malformed text)
  let uri ← (Uri.ofDocument s.workingDirectory report.path).mapError (.unusablePath report.path)
  .ok (report, uri)

/-- The events of a run, and what it prints. -/
def synthesis (report : Report) (uri : Uri) (o : Options) : List Log.Event × String :=
  let (catalog, total) := Catalog.empty.surveyAll uri report.diagnostics
  let events :=
    [Log.loaded uri report.diagnostics.length] ++
    report.diagnostics.flatMap (fun d => Log.ofSite (Site.ofDiagnostic d uri)) ++
    [Log.surveyed uri total, Log.synthesised total]
  (events, answerText catalog uri o.cursor o.pretty)

/-- The outcome of a failure. -/
def failed (s : Surroundings) (format : Log.Format) (logged : List Log.Event) (f : Failure) :
    Outcome :=
  { success := false
    stdout := ""
    logged := logged
    format := format
    report := if s.stderr.isOk then f.report else "" }

/-- Carries out options that were understood. -/
def execute (s : Surroundings) (o : Options) : Outcome :=
  match logFilter s o with
  | .error f => failed s o.logFormat [] f
  | .ok filter =>
    match readReport s o with
    | .error f => failed s o.logFormat [] f
    | .ok (report, uri) =>
      let (events, text) := synthesis report uri o
      let logged := events.filter filter.passes
      match s.stdout with
      | .error reason => failed s o.logFormat logged (.unwritable reason)
      | .ok () =>
        { success := true
          stdout := text
          logged := logged
          format := o.logFormat
          report := "" }

/-- Prints a text that was asked for. A stream that fails is not reported. -/
def say (s : Surroundings) (text : String) : Outcome :=
  { success := s.stdout.isOk
    stdout := if s.stdout.isOk then text else ""
    logged := []
    format := .standard
    report := "" }

/-- Runs a command line. -/
def run (s : Surroundings) (arguments : List Argument) : Outcome :=
  match Options.parse arguments with
  | .error (.fault f) => failed s .standard [] (.usage f)
  | .error (.help long) => say s (if long then longHelp else shortHelp)
  | .error .version => say s versionText
  | .ok o => execute s o

end QuickFix.Command
