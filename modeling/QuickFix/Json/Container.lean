import QuickFix.Json.Lexeme

/-!
# Arrays and objects

How a reader moves from item to item and from key to key, and what closes a container. A loose fault
from inside a container gets its place here: where the reader stands once it has looked for the
closing bracket.
-/

set_option autoImplicit false

namespace QuickFix.Json

/-- Whether an array goes on, with the text from its next item or its closing bracket on. -/
def nextItem (first : Bool) (s : List Char) : Except Fault (Bool × List Char) :=
  match skipSpace s with
  | [] => .error (.here .endInList [])
  | c :: t =>
    if c = ']' then .ok (false, c :: t)
    else if first then .ok (true, c :: t)
    else if c = ',' then
      match skipSpace t with
      | [] => .error (.here .endInValue [])
      | d :: u => if d = ']' then .error (.next .trailingComma (d :: u)) else .ok (true, d :: u)
    else .error (.next .expectedListEnd (c :: t))

/-- The next key of an object, or none before its closing brace. -/
def nextKey (first : Bool) (s : List Char) : Except Fault (Option (List Char) × List Char) :=
  match skipSpace s with
  | [] => .error (.here .endInObject [])
  | c :: t =>
    if c = '}' then .ok (none, c :: t)
    else if first then
      if c = '"' then (stringBody t).map fun r => (some r.1, r.2)
      else .error (.next .keyNotString (c :: t))
    else if c = ',' then
      match skipSpace t with
      | [] => .error (.here .endInValue [])
      | d :: u =>
        if d = '"' then (stringBody u).map fun r => (some r.1, r.2)
        else if d = '}' then .error (.next .trailingComma (d :: u))
        else .error (.next .keyNotString (d :: u))
    else .error (.next .expectedObjectEnd (c :: t))

/-- The text behind the colon of a member. -/
def skipColon (s : List Char) : Except Fault (List Char) :=
  match skipSpace s with
  | [] => .error (.here .endInObject [])
  | c :: t => if c = ':' then .ok t else .error (.next .expectedColon (c :: t))

/-- Where a reader stands that looked for the end of a container, and what it found amiss. -/
structure Ending where
  rest : List Char
  amiss : Option Cause

/-- The end of an array. A comma is passed, to tell a trailing one from further items. -/
def listEnding (s : List Char) : Ending :=
  match skipSpace s with
  | [] => ⟨[], some .endInList⟩
  | c :: t =>
    if c = ']' then ⟨t, none⟩
    else if c = ',' then
      match skipSpace t with
      | [] => ⟨[], some .trailingCharacters⟩
      | d :: u => ⟨d :: u, some (if d = ']' then .trailingComma else .trailingCharacters)⟩
    else ⟨c :: t, some .trailingCharacters⟩

/-- The end of an object. -/
def objectEnding (s : List Char) : Ending :=
  match skipSpace s with
  | [] => ⟨[], some .endInObject⟩
  | c :: t =>
    if c = '}' then ⟨t, none⟩
    else if c = ',' then ⟨c :: t, some .trailingComma⟩
    else ⟨c :: t, some .trailingCharacters⟩

/-- What was read inside a container, closed: the end has to be there, and a loose fault gets the
place reached in looking for it. -/
def closed {α : Type} (ending : List Char → Ending) (r : Except Fault (α × List Char)) :
    Except Fault (α × List Char) :=
  match r with
  | .ok (a, rest) =>
    match ending rest with
    | ⟨rest', none⟩ => .ok (a, rest')
    | ⟨rest', some cause⟩ => .error (.next cause rest')
  | .error (.loose cause rest) => .error (.here cause (ending rest).rest)
  | .error f => .error f

/-- The items of an array from behind its opening bracket up to its closing one. Every round takes
at least one character, so the length of the text bounds the rounds. -/
def items {α : Type} (item : Reader α) : (rounds : Nat) → (first : Bool) → Reader (List α)
  | 0, _, _ => .error (.here .endInList [])
  | rounds + 1, first, s => do
    match ← nextItem first s with
    | (false, rest) => .ok ([], rest)
    | (true, rest) =>
      let (a, rest) ← item rest
      let (as, rest) ← items item rounds false rest
      .ok (a :: as, rest)

/-- The members of an object from behind its opening brace up to its closing one, keys ascending; of
equal keys the last one counts. -/
def members (item : Reader Json) :
    (rounds : Nat) → (first : Bool) → List (String × Json) → Reader (List (String × Json))
  | 0, _, _, _ => .error (.here .endInObject [])
  | rounds + 1, first, ms, s => do
    match ← nextKey first s with
    | (none, rest) => .ok (ms, rest)
    | (some key, rest) =>
      let (v, rest) ← item (← skipColon rest)
      members item rounds false (insertMember (String.ofList key) v ms) rest

end QuickFix.Json
