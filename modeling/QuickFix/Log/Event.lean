import QuickFix.Catalog
import QuickFix.Uri.Describe

/-!
# Log events

What a run tells about itself: where it happened, how important it is, and some named values.
-/

set_option autoImplicit false

namespace QuickFix.Log

/-- How important an event is, from the gravest kind to the least one. -/
inductive Level
  | error
  | warn
  | info
  | debug
  | trace
  deriving DecidableEq, Repr

/-- The place of a level, counted from one. -/
def Level.rank : Level → Nat
  | .error => 1
  | .warn => 2
  | .info => 3
  | .debug => 4
  | .trace => 5

/-- The name of a level in log lines. -/
def Level.name : Level → String
  | .error => "ERROR"
  | .warn => "WARN"
  | .info => "INFO"
  | .debug => "DEBUG"
  | .trace => "TRACE"

/-- A value of an event. -/
inductive Datum
  | text (s : String)
  | count (n : Nat)

/-- Something that happened. -/
structure Event where
  level : Level
  /-- The part of the program that speaks. -/
  target : String
  message : String
  data : List (String × Datum)

/-- The part of the program that runs a command. -/
def commandTarget : String := "mender-cli::run"

/-- The part of the program that tries the rules. -/
def surveyTarget : String := "mender-actions::dispatch"

/-- A report was read. -/
def loaded (uri : Uri) (diagnostics : Nat) : Event :=
  ⟨.debug, commandTarget, "loaded diagnostics document",
    [("uri", .text uri.describe), ("diagnostics", .count diagnostics)]⟩

/-- The rules were tried on the line with index `i`. -/
def tried (i : Nat) : Option (Rule × Action) → Event
  | none => ⟨.trace, surveyTarget, "no rule matched", [("line", .count i)]⟩
  | some (rule, action) =>
    ⟨.debug, surveyTarget, "registered quick fix",
      [("rule", .text rule.name), ("line", .count i), ("title", .text action.title)]⟩

/-- All diagnostics of a file were surveyed. -/
def surveyed (uri : Uri) (total : Nat) : Event :=
  ⟨.debug, surveyTarget, "dispatched diagnostics",
    [("uri", .text uri.describe), ("total", .count total)]⟩

/-- The fixes are complete. -/
def synthesised (registered : Nat) : Event :=
  ⟨.info, commandTarget, "synthesised quick fixes", [("registered", .count registered)]⟩

/-- The events of trying the rules on the lines of a site. -/
def ofSite (site : Site) : List Event :=
  site.answers.mapIdx tried

end QuickFix.Log
