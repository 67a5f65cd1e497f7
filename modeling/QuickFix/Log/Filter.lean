import QuickFix.Log.Event
import QuickFix.Numeral.Real
import QuickFix.Pattern.Check
import QuickFix.Text.Pieces
import QuickFix.Text.Word

/-!
# Log filters

A filter is a list of directives between commas. A directive sets how much is logged, for all parts
of the program or for those whose name starts with a target; it may ask for certain values of an
event, and may be tied to spans of work, of which this program has none. Of the directives that
apply to an event, the one with the longest target decides.
-/

set_option autoImplicit false

namespace QuickFix.Log

/-- How much is logged: the levels up to one, or nothing. -/
abbrev Verbosity : Type := Option Level

/-- The names of the verbosities. -/
def verbosityNames : List (String × Verbosity) :=
  [("error", some .error), ("warn", some .warn), ("info", some .info), ("debug", some .debug),
   ("trace", some .trace), ("off", none)]

/-- The verbosity with a number from zero to five. -/
def numberedVerbosity? : Nat → Option Verbosity
  | 0 => some none
  | 1 => some (some .error)
  | 2 => some (some .warn)
  | 3 => some (some .info)
  | 4 => some (some .debug)
  | 5 => some (some .trace)
  | _ => none

/-- The verbosity that a number or a name in any case stands for. -/
def verbosity? (s : List Char) : Option Verbosity :=
  match (Numeral.natural? s).bind numberedVerbosity? with
  | some v => some v
  | none => (verbosityNames.find? fun n => n.1.toList == s.map Text.lower).map Prod.snd

/-- Why a filter is refused. -/
inductive FilterFault
  | directive
  | verbosity
  /-- A value is compared with what is no pattern. -/
  | value (f : Pattern.Fault)
  deriving DecidableEq, Repr

/-- The fault in words. -/
def FilterFault.message : FilterFault → String
  | .directive => "invalid filter directive"
  | .verbosity =>
    "error parsing level filter: expected one of \"off\", \"error\", \"warn\", \"info\", " ++
      "\"debug\", \"trace\", or a number 0-5"
  | .value f => "invalid field filter: " ++ f.message

/-- A part of a filter. -/
structure Directive where
  target : Option (List Char) := none
  /-- The kind of span that the directive is tied to. -/
  span : Option (List Char) := none
  /-- The values that an event has to carry. -/
  fields : List (List Char) := []
  /-- Whether some value is compared, which is only done for spans. -/
  compares : Bool := false
  verbosity : Verbosity := some .trace

/-- What the reader of a directive is inside of, with the place where that started. -/
inductive Part
  | start
  | name (start : Nat)
  | span (start : Nat)
  | field (start : Nat)
  | fieldsEnd
  | spanEnd
  | verbosity (start : Nat)

/-- The characters of a text from one place up to another one. -/
def slice (s : List Char) (i j : Nat) : List Char :=
  (s.drop i).take (j - i)

/-- What keeps a value from being compared with a text: what is no number has to be a pattern. -/
def comparisonFault? (s : List Char) : Option Pattern.Fault :=
  if Numeral.isReal s then none else Pattern.fault? s

/-- The directive with one more value asked for. What it is compared with stands behind the first
equals sign and before a second one. -/
def Directive.asking (d : Directive) (field : List Char) : Except FilterFault Directive :=
  match Text.pieces (· == '=') field with
  | [] => .error .directive
  | [name] =>
    if name.isEmpty then .error .directive else .ok { d with fields := d.fields ++ [name] }
  | name :: value :: _ =>
    match comparisonFault? value with
    | some f => .error (.value f)
    | none => .ok { d with fields := d.fields ++ [name], compares := true }

/-- One character of a directive, at place `i` behind the blanks that the text may start with. What
a part holds is taken from the text by its places. -/
def Directive.step (text : List Char) (i : Nat) (c : Char) :
    Part × Directive → Except FilterFault (Part × Directive)
  | (.start, d) =>
    if c = '[' then .ok (.span (i + 1), d)
    else if c == '-' || c == ':' || c == '_' || Text.isLetterOrNumber c then .ok (.name i, d)
    else .error .directive
  | (.name j, d) =>
    if c = '=' then .ok (.verbosity (i + 1), { d with target := some (slice text j i) })
    else if c = '[' then .ok (.span (i + 1), { d with target := some (slice text j i) })
    else .ok (.name j, d)
  | (.span j, d) =>
    if c = ']' then .ok (.spanEnd, { d with span := some (slice text j i) })
    else if c = '{' then
      let name := slice text j i
      .ok (.field (i + 1), { d with span := if name.isEmpty then none else some name })
    else .ok (.span j, d)
  | (.field j, d) =>
    if c = '}' then (d.asking (slice text j i)).map fun d => (.fieldsEnd, d)
    else .ok (.field j, d)
  | (.fieldsEnd, d) => if c = ']' then .ok (.spanEnd, d) else .error .directive
  | (.spanEnd, d) => if c = '=' then .ok (.verbosity (i + 1), d) else .error .directive
  | (.verbosity j, d) => .ok (.verbosity j, d)

/-- The parts of a directive, one character after the other. -/
def Directive.steps (text : List Char) :
    (i : Nat) → List Char → Part × Directive → Except FilterFault (Part × Directive)
  | _, [], state => .ok state
  | i, c :: s, state => do steps text (i + 1) s (← step text i c state)

/-- The directive at the end of its text. A name alone is a verbosity, or else a target of which
everything is logged. -/
def Directive.finish (text : List Char) : Part × Directive → Except FilterFault Directive
  | (.name j, d) =>
    let name := text.drop j
    match verbosity? name with
    | some v => .ok { d with verbosity := v }
    | none => .ok { d with target := some name }
  | (.verbosity j, d) =>
    let name := text.drop j
    if name.isEmpty then .ok d
    else
      match verbosity? name with
      | some v => .ok { d with verbosity := v }
      | none => .error .verbosity
  | (.spanEnd, d) => .ok d
  | _ => .error .directive

/-- The directive that a text is. -/
def Directive.parse (text : List Char) : Except FilterFault Directive := do
  Directive.finish text (← Directive.steps text 0 (Text.trim text) (.start, {}))

/-- The directives of a filter. -/
abbrev Filter : Type := List Directive

/-- The filter that a text is; nothing between two commas is no directive. -/
def Filter.parse (text : List Char) : Except FilterFault Filter :=
  ((Text.pieces (· == ',') text).filter fun d => !d.isEmpty).mapM Directive.parse

/-- Whether the directive speaks about an event outside of all spans. -/
def Directive.appliesTo (d : Directive) (e : Event) : Bool :=
  d.span.isNone && !d.compares &&
    (match d.target with
      | some target => target.isPrefixOf e.target.toList
      | none => true) &&
    d.fields.all fun f => f == "message".toList || e.data.any fun v => v.1.toList == f

/-- What makes a directive more particular than another one. -/
def Directive.weight (d : Directive) : Nat × Nat :=
  (match d.target with
    | some target => target.length + 1
    | none => 0,
   d.fields.length)

/-- Whether `d`, which comes later, is preferred to `e`. -/
def Directive.outweighs (d e : Directive) : Bool :=
  let (t, n) := d.weight
  let (u, m) := e.weight
  u < t || u == t && (m < n || m == n && !decide (d.fields < e.fields))

/-- The directive that decides on an event. -/
def Filter.deciding? (f : Filter) (e : Event) : Option Directive :=
  (f.filter fun d => d.appliesTo e).foldl (fun best d =>
    match best with
    | none => some d
    | some b => if d.outweighs b then some d else best) none

/-- Whether an event is logged. -/
def Filter.passes (f : Filter) (e : Event) : Bool :=
  match f.deciding? e with
  | some d =>
    match d.verbosity with
    | some l => e.level.rank ≤ l.rank
    | none => false
  | none => false

end QuickFix.Log
