import QuickFix.Command.Usage
import QuickFix.Numeral.Natural
import QuickFix.Text.Blank
import QuickFix.Text.Match

/-!
# Reading the command line

The arguments are taken one after the other. The values of an option are collected first and taken
in when the next option or input comes, or at the end; so a fault in a value is found late, and a
fault of the arguments between may come first. Help and version are answered as soon as they are
met.
-/

set_option autoImplicit false

namespace QuickFix.Command

/-- What a run is asked to do. -/
structure Options where
  input : Argument
  cursor : Option Position
  pretty : Bool
  logFilter : String
  logFormat : Log.Format

/-- The filter used if none is asked for. -/
def standardFilter : String := "warn"

/-- The position written as two numbers with a colon between, blanks around each aside. -/
def cursor? (s : List Char) : Option Position := do
  let (line, character) ← Text.cut? ':' s
  let line ← Numeral.word32? (Text.trim line)
  let character ← Numeral.word32? (Text.trim character)
  some ⟨line, character⟩

/-- How the reading of a command line stops early. -/
inductive Stop
  | fault (f : UsageFault)
  | help (long : Bool)
  | version

/-- What is known of a command line so far. -/
structure Progress where
  /-- The options taken in, in their order. -/
  given : List Flag := []
  /-- An option and the values collected for it. -/
  pending : Option (Flag × List Argument) := none
  /-- Whether the pending option still wants its value. -/
  awaiting : Bool := false
  /-- Whether an input was met. -/
  inputMet : Bool := false
  /-- Whether only inputs may follow. -/
  optionsEnded : Bool := false
  input : Option Argument := none
  cursor : Option Position := none
  pretty : Bool := false
  logFilter : Option String := none
  logFormat : Option Log.Format := none

namespace Progress

/-- Takes in the value of an option. -/
def assign (p : Progress) (flag : Flag) (value : Argument) : Except UsageFault Progress :=
  match flag with
  | .input =>
    if value.isEmpty then .error (.missingValue .input) else .ok { p with input := some value }
  | .cursor =>
    match value.text? with
    | none => .error .notText
    | some text =>
      match cursor? text.toList with
      | some place => .ok { p with cursor := some place }
      | none => .error (.badCursor text)
  | .logFilter =>
    match value.text? with
    | none => .error .notText
    | some text => .ok { p with logFilter := some text }
  | .logFormat =>
    match value.text?.bind Log.Format.ofName? with
    | some f => .ok { p with logFormat := some f }
    | none =>
      .error (if value.isEmpty then .missingValue .logFormat else .badFormat value.shown)
  | .pretty => .ok { p with pretty := true }
  | .help | .version => .ok p

/-- Takes in an option with its values. The progress made is given back with a fault, since the
option may count as given already. -/
def take (p : Progress) (flag : Flag) (values : List Argument) : Progress × Option UsageFault :=
  match values with
  | [] => (p, some (.missingValue flag))
  | value :: _ =>
    if p.given.contains flag then ({ p with given := p.given.erase flag }, some (.repeated flag))
    else
      let begun := { p with given := p.given ++ [flag] }
      match begun.assign flag value with
      | .ok done => (done, none)
      | .error f => (begun, some f)

/-- Takes in the option that is pending. -/
def settle (p : Progress) : Progress × Option UsageFault :=
  match p.pending with
  | none => (p, none)
  | some (flag, values) => take { p with pending := none, awaiting := false } flag values

/-- The progress, or the fault that stops it. -/
def orStop : Progress × Option UsageFault → Except Stop Progress
  | (p, none) => .ok p
  | (_, some f) => .error (.fault f)

/-- An option that takes no value. -/
def switch (p : Progress) (flag : Flag) (long : Bool) : Except Stop Progress := do
  let p ← orStop p.settle
  match flag with
  | .help => .error (.help long)
  | .version => .error .version
  | _ => orStop (p.take flag [[]])

/-- The usage shown with an option that takes no value. Once anything was taken in, that usage names
all there is to choose from. -/
def needlessUsage (p : Progress) (flag : Flag) : Usage :=
  if p.given.isEmpty then .options [flag]
  else .choice (if Flag.working.contains flag then [] else [flag])

/-- An option by its name, with the value that may be attached to it. -/
def longOption (p : Progress) (name : Argument) (value : Option Argument) :
    Except Stop Progress :=
  match name.text?.bind Flag.ofLong? with
  | some flag =>
    if flag.takesValue then do
      let p ← orStop p.settle
      match value with
      | some v => orStop (p.take flag [v])
      | none => .ok { p with pending := some (flag, []), awaiting := true }
    else
      match value with
      | some v =>
        .error (.fault (.needlessValue v.shown flag (p.needlessUsage flag)))
      | none => p.switch flag true
  | none =>
    let given := p.settle.1.given
    let shown := "--" ++ name.shown
    .error <| .fault <|
      match mostSimilar? Flag.long Flag.named name.shown with
      | some flag => .unexpectedArgument shown (.similar flag) (.options (given ++ [flag]))
      | none => .unexpectedArgument shown .asValue (.ofGiven given)

/-- Options by their letters. Both that there are answer at once, so only the first letter
counts. -/
def shortOptions (p : Progress) (letters : Argument) : Except Stop Progress :=
  match letters with
  | some 'h' :: _ => p.switch .help false
  | some 'V' :: _ => p.switch .version false
  | some c :: _ =>
    .error (.fault (.unexpectedArgument ("-" ++ String.ofList [c]) .asValue .general))
  | _ => .error (.fault (.unexpectedArgument ("-" ++ letters.shown) .asValue .general))

/-- An argument that is no option. -/
def plain (p : Progress) (a : Argument) : Except Stop Progress :=
  if p.inputMet then .error (.fault (.unexpectedArgument a.shown .none .general))
  else do
    let p ← orStop p.settle
    .ok { p with pending := some (.input, [a]), awaiting := false, inputMet := true }

/-- One argument. -/
def step (p : Progress) (a : Argument) : Except Stop Progress :=
  if p.optionsEnded then p.plain a
  else
    match a with
    | [some '-', some '-'] => .ok { p with optionsEnded := true }
    | some '-' :: some '-' :: rest =>
      let (name, value) := Argument.cut '=' rest
      p.longOption name value
    | some '-' :: c :: rest => p.shortOptions (c :: rest)
    | _ =>
      match p.awaiting, p.pending with
      | true, some (flag, values) =>
        .ok { p with pending := some (flag, values ++ [a]), awaiting := false }
      | _, _ => p.plain a

/-- The options, once every argument is taken in. -/
def finish (p : Progress) : Except Stop Options := do
  let p ← orStop p.settle
  match p.input with
  | none => .error (.fault (.missingInput p.given))
  | some input =>
    .ok
      { input := input
        cursor := p.cursor
        pretty := p.pretty
        logFilter := p.logFilter.getD standardFilter
        logFormat := p.logFormat.getD .standard }

end Progress

/-- The options of a command line. -/
def Options.parse (arguments : List Argument) : Except Stop Options := do
  (← arguments.foldlM Progress.step {}).finish

end QuickFix.Command
