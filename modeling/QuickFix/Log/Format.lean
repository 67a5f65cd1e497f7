import QuickFix.Json.Read
import QuickFix.Log.Event

/-!
# Log lines

The two forms of a log line, and how a form is named: on the command line, in any mix of cases, and
in JSON.
-/

set_option autoImplicit false

namespace QuickFix.Log

/-- The form of log lines. -/
inductive Format
  | json
  | compact
  deriving DecidableEq, Repr

namespace Format

/-- The form used if none is asked for. -/
def standard : Format := .compact

/-- All forms. -/
def all : List Format := [.json, .compact]

/-- The name of a form. -/
def name : Format → String
  | .json => "json"
  | .compact => "compact"

/-- The form with this name. -/
def ofName? (s : String) : Option Format :=
  all.find? fun f => f.name == s

/-- The form with this name, whatever the case of its ASCII letters. -/
def ofAnyCase? (s : String) : Option Format :=
  ofName? (String.ofList (s.toList.map Text.lower))

/-- The name of a form as a string of JSON. -/
def readName : Json.Reader Format := fun s => do
  let (name, rest) ← Json.stringFor "variant identifier" s
  match ofName? name with
  | some f => .ok (f, rest)
  | none => .error (.here (.unknownVariant name (all.map Format.name)) rest)

/-- The name of a form as the key of an object. -/
def readKey : Json.Reader Format := fun s =>
  match Json.skipSpace s with
  | [] => .error (.here .endInObject [])
  | '"' :: t => readName ('"' :: t)
  | '}' :: t => .error (.next .expectedValue ('}' :: t))
  | t => .error (.next .keyNotString t)

/-- The `null` that may stand beside the name of a form. -/
def readNothing (s : List Char) : Except Json.Fault (List Char) :=
  match Json.skipSpace s with
  | [] => .error (.here .endInValue [])
  | 'n' :: t => Json.literal ['u', 'l', 'l'] t
  | t => .error (Json.unexpected "unit" t)

/-- A form in JSON: its name, or an object with the name as its only key and nothing beside it. -/
def read : Json.Reader Format := fun s =>
  match Json.skipSpace s with
  | [] => .error (.here .endInValue [])
  | '"' :: t => readName ('"' :: t)
  | '{' :: t => do
    let (f, rest) ← readKey t
    let rest ← readNothing (← Json.skipColon rest)
    match Json.skipSpace rest with
    | [] => .error (.here .endInObject [])
    | '}' :: u => .ok (f, u)
    | u => .error (.here .expectedValue u)
  | t => .error (.next .expectedValue t)

/-- The form that a JSON text names. -/
def parse (text : String) : Except Json.Fault Format :=
  Json.document read text.toList

end Format

/-- A value as it stands behind its name. -/
def Datum.write : Datum → String
  | .text s => s
  | .count n => String.ofList (Numeral.digits n)

/-- A value of a JSON line. -/
def Datum.toJson : Datum → Json
  | .text s => .string s
  | .count n => .ofNat n

/-- The level's name, flush right in five columns. -/
def Level.padded (l : Level) : String :=
  String.ofList (List.replicate (5 - l.name.length) ' ') ++ l.name

/-- The line of an event that carries a time stamp. -/
def Format.line (f : Format) (stamp : String) (e : Event) : String :=
  match f with
  | .compact =>
    stamp ++ " " ++ e.level.padded ++ " " ++ e.target ++ ": " ++ e.message ++
      String.join (e.data.map fun d => " " ++ d.1 ++ "=" ++ d.2.write) ++ "\n"
  | .json =>
    Json.render .compact (.object (
      [("timestamp", .string stamp), ("level", .string e.level.name),
       ("message", .string e.message)] ++
      e.data.map (fun d => (d.1, d.2.toJson)) ++
      [("target", .string e.target)])) ++ "\n"

end QuickFix.Log
