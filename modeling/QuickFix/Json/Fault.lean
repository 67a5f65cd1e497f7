import QuickFix.Json.Layout
import QuickFix.Text.Octets
import QuickFix.Text.Quoted

/-!
# Faults of a JSON text

What is wrong with a text, and where. A place is known by the number of octets that follow it, since
a reader knows what remains and not what it has passed; the line and the column are worked out from
the whole text at the end. Some faults are found after the value in question was read: they stay
without a place until the container around the value fixes one.
-/

set_option autoImplicit false

namespace QuickFix.Json

/-- What was found where something else was wanted. -/
inductive Found
  | null
  | bool (b : Bool)
  | number (n : Number)
  | string (s : List Char)
  | sequence
  | map

/-- What was found, in words. -/
def Found.describe : Found → String
  | .null => "null"
  | .bool true => "boolean `true`"
  | .bool false => "boolean `false`"
  | .number (.float x) => "floating point `" ++ String.ofList (Number.float x).write ++ "`"
  | .number n => "integer `" ++ String.ofList n.write ++ "`"
  | .string s => "string " ++ String.ofList (Text.quoted s)
  | .sequence => "sequence"
  | .map => "map"

/-- Why a text is refused. -/
inductive Cause
  /-- The text ends where a value starts or inside a number or a literal. -/
  | endInValue
  | endInList
  | endInObject
  | endInString
  | expectedValue
  | expectedColon
  | expectedListEnd
  | expectedObjectEnd
  /-- A literal goes on with another letter. -/
  | expectedIdent
  | keyNotString
  | trailingComma
  | trailingCharacters
  | invalidNumber
  | numberOutOfRange
  | invalidEscape
  | controlCharacter
  | loneSurrogate
  | unfinishedPair
  /-- Too many containers inside one another. -/
  | tooDeep
  | invalidType (found : Found) (wanted : String)
  | invalidValue (found : Found) (wanted : String)
  /-- An array that ends before the fields of a record do. -/
  | invalidLength (length : Nat) (wanted : String)
  | missingField (name : String)
  | duplicateField (name : String)
  | unknownVariant (name : String) (known : List String)
  /-- A value refused with a text of its own. -/
  | refused (text : String)

/-- The alternatives of a choice, in words. -/
def alternatives : List String → String
  | [] => "there are no variants"
  | [a] => "expected `" ++ a ++ "`"
  | [a, b] => "expected `" ++ a ++ "` or `" ++ b ++ "`"
  | names => "expected one of " ++ ", ".intercalate (names.map fun n => "`" ++ n ++ "`")

/-- The cause in words. -/
def Cause.message : Cause → String
  | endInValue => "EOF while parsing a value"
  | endInList => "EOF while parsing a list"
  | endInObject => "EOF while parsing an object"
  | endInString => "EOF while parsing a string"
  | expectedValue => "expected value"
  | expectedColon => "expected `:`"
  | expectedListEnd => "expected `,` or `]`"
  | expectedObjectEnd => "expected `,` or `\x7d`"
  | expectedIdent => "expected ident"
  | keyNotString => "key must be a string"
  | trailingComma => "trailing comma"
  | trailingCharacters => "trailing characters"
  | invalidNumber => "invalid number"
  | numberOutOfRange => "number out of range"
  | invalidEscape => "invalid escape"
  | controlCharacter => "control character (\\u0000-\\u001F) found while parsing a string"
  | loneSurrogate => "lone leading surrogate in hex escape"
  | unfinishedPair => "unexpected end of hex escape"
  | tooDeep => "recursion limit exceeded"
  | invalidType found wanted => "invalid type: " ++ found.describe ++ ", expected " ++ wanted
  | invalidValue found wanted => "invalid value: " ++ found.describe ++ ", expected " ++ wanted
  | invalidLength length wanted =>
    "invalid length " ++ String.ofList (Numeral.digits length) ++ ", expected " ++ wanted
  | missingField name => "missing field `" ++ name ++ "`"
  | duplicateField name => "duplicate field `" ++ name ++ "`"
  | unknownVariant name known => "unknown variant `" ++ name ++ "`, " ++ alternatives known
  | refused text => text

/-- A cause with its place, or with the text that remained when it was found. -/
inductive Fault
  /-- Found at the place that `left` octets follow. -/
  | placed (cause : Cause) (left : Nat)
  /-- Found when `rest` remained; the container around decides on the place. -/
  | loose (cause : Cause) (rest : List Char)

/-- The fault at the place where the reader stands. -/
def Fault.here (cause : Cause) (rest : List Char) : Fault :=
  .placed cause (Text.octetCount rest)

/-- The fault of the next octet: its place is just behind it, or the end of the text. -/
def Fault.next (cause : Cause) (rest : List Char) : Fault :=
  .placed cause (Text.octetCount rest - 1)

/-- The fault with a place: a loose one gets the place where its reader stood. -/
def Fault.fixed : Fault → Cause × Nat
  | .placed cause left => (cause, left)
  | .loose cause rest => (cause, Text.octetCount rest)

/-- The line, counted from one, and the octets from its start of the place `offset` octets into a
text; `line` and `column` are those of the place reached so far. -/
def placeFrom (line column : Nat) : List Char → Nat → Nat × Nat
  | [], offset => (line, column + offset)
  | c :: s, offset =>
    if offset < c.utf8Size then (line, column + offset)
    else if c = '\n' then placeFrom (line + 1) 0 s (offset - 1)
    else placeFrom line (column + c.utf8Size) s (offset - c.utf8Size)

/-- The message of a fault found in a text, with line and column. -/
def Fault.message (text : List Char) (fault : Fault) : String :=
  let (cause, left) := fault.fixed
  let (line, column) := placeFrom 1 0 text (Text.octetCount text - left)
  cause.message ++ " at line " ++ String.ofList (Numeral.digits line) ++ " column " ++
    String.ofList (Numeral.digits column)

/-- What a reader makes of a text: a value and the text that remains, or a fault. -/
abbrev Reader (α : Type) : Type :=
  List Char → Except Fault (α × List Char)

end QuickFix.Json
