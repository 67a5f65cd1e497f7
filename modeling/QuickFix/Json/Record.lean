import QuickFix.Json.Ignored
import QuickFix.Json.Read

/-!
# Records

A record is written as an object, its fields in any order and among members nobody asks for, or as
an array of its fields in their order. Either way its fields are read into a draft, which is turned
into the record at the end.
-/

set_option autoImplicit false

namespace QuickFix.Json

/-- A field of a record that is read into a draft. -/
structure Field (δ : Type) where
  name : String
  /-- Whether the draft has the field already. -/
  isSet : δ → Bool
  /-- Reads the field's value into the draft; the number bounds the containers inside. -/
  fill : (levels : Nat) → δ → Reader δ
  /-- Whether an array may end before the field. -/
  mayLack : Bool

/-- A field given by its place in the draft and the reader of its value. -/
def Field.of {δ β : Type} (name : String) (get : δ → Option β) (set : δ → β → δ)
    (reader : (levels : Nat) → Reader β) (mayLack : Bool) : Field δ :=
  { name := name
    isSet := fun d => (get d).isSome
    fill := fun levels d s => (reader levels s).map fun r => (set d r.1, r.2)
    mayLack := mayLack }

/-- The form of a record with drafts `δ`. -/
structure Record (δ α : Type) where
  name : String
  fields : List (Field δ)
  empty : δ
  /-- The record of a complete draft, or the first field that it lacks. -/
  finish : δ → Except Cause α

/-- What is wanted where the record stands. -/
def Record.wanted {δ α : Type} (r : Record δ α) : String :=
  "struct " ++ r.name

/-- What is wanted of an array that stands for the record. -/
def Record.wantedLength {δ α : Type} (r : Record δ α) : String :=
  r.wanted ++ " with " ++ String.ofList (Numeral.digits r.fields.length) ++
    (if r.fields.length = 1 then " element" else " elements")

/-- The fields as items of an array, from behind its opening bracket; `read` are read already. -/
def fillInOrder {δ : Type} (wantedLength : String) (levels : Nat) :
    (fields : List (Field δ)) → (read : Nat) → δ → Reader δ
  | [], _, d, s => .ok (d, s)
  | f :: fs, read, d, s => do
    match ← nextItem (read == 0) s with
    | (true, rest) =>
      let (d, rest) ← f.fill levels d rest
      fillInOrder wantedLength levels fs (read + 1) d rest
    | (false, rest) =>
      if f.mayLack then .ok (d, rest)
      else .error (.loose (.invalidLength read wantedLength) rest)

/-- The fields as members of an object, from behind its opening brace. -/
def fillByName {δ : Type} (rounds : Nat) (fields : List (Field δ)) (levels : Nat) :
    (left : Nat) → (first : Bool) → δ → Reader δ
  | 0, _, _, _ => .error (.here .endInObject [])
  | left + 1, first, d, s => do
    match ← nextKey first s with
    | (none, rest) => .ok (d, rest)
    | (some key, rest) =>
      let name := String.ofList key
      match fields.find? fun f => f.name == name with
      | none =>
        let rest ← skipValue rounds (← skipColon rest)
        fillByName rounds fields levels left false d rest
      | some f =>
        if f.isSet d then .error (.loose (.duplicateField name) rest)
        else
          let (d, rest) ← f.fill levels d (← skipColon rest)
          fillByName rounds fields levels left false d rest

/-- The record of a draft that was read, or the loose fault of a field that it lacks. -/
def Record.finished {δ α : Type} (r : Record δ α) (read : Except Fault (δ × List Char)) :
    Except Fault (α × List Char) := do
  let (d, rest) ← read
  match r.finish d with
  | .ok a => .ok (a, rest)
  | .error cause => .error (.loose cause rest)

/-- A record in either form. -/
def Record.read {δ α : Type} (r : Record δ α) (rounds levels : Nat) : Reader α := fun s =>
  match skipSpace s with
  | [] => .error (.here .endInValue [])
  | c :: t =>
    if c = '[' then
      match levels with
      | 0 => .error (.here .tooDeep t)
      | levels + 1 =>
        closed listEnding (r.finished (fillInOrder r.wantedLength levels r.fields 0 r.empty t))
    else if c = '{' then
      match levels with
      | 0 => .error (.here .tooDeep t)
      | levels + 1 =>
        closed objectEnding
          (r.finished (fillByName rounds r.fields levels rounds true r.empty t))
    else .error (unexpected r.wanted (c :: t))

end QuickFix.Json
