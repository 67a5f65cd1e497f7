import QuickFix.Json.Container

/-!
# Reading JSON values

The reader of any value, and the readers of the plain types that records are made of. `rounds`
bounds the items and members of a container and is the length of the whole text; `levels` is the
number of containers that may still be opened inside one another.
-/

set_option autoImplicit false

namespace QuickFix.Json

/-- Containers that may stand inside one another. -/
def deepest : Nat := 127

/-- Any value. -/
def value (rounds : Nat) : (levels : Nat) → Reader Json
  | levels, s =>
    match skipSpace s with
    | [] => .error (.here .endInValue [])
    | c :: t =>
      if c = 'n' then (literal ['u', 'l', 'l'] t).map fun r => (.null, r)
      else if c = 't' then (literal ['r', 'u', 'e'] t).map fun r => (.bool true, r)
      else if c = 'f' then (literal ['a', 'l', 's', 'e'] t).map fun r => (.bool false, r)
      else if c = '-' then (numberBody true t).map fun r => (.number r.1, r.2)
      else if Numeral.isDigit c then (numberBody false (c :: t)).map fun r => (.number r.1, r.2)
      else if c = '"' then (stringBody t).map fun r => (.string (String.ofList r.1), r.2)
      else if c = '[' then
        match levels with
        | 0 => .error (.here .tooDeep t)
        | levels + 1 =>
          (closed listEnding (items (value rounds levels) rounds true t)).map fun r =>
            (.array r.1, r.2)
      else if c = '{' then
        match levels with
        | 0 => .error (.here .tooDeep t)
        | levels + 1 =>
          (closed objectEnding (members (value rounds levels) rounds true [] t)).map fun r =>
            (.object r.1, r.2)
      else .error (.next .expectedValue (c :: t))

/-- The fault of a value of another kind than the one wanted. A plain value is read first, and the
fault stands behind it. -/
def unexpected (wanted : String) (s : List Char) : Fault :=
  match s with
  | [] => .here .endInValue []
  | c :: t =>
    let behind (found : Found) (r : Except Fault (List Char)) : Fault :=
      match r with
      | .ok rest => .here (.invalidType found wanted) rest
      | .error f => f
    let numeral (r : Except Fault (Number × List Char)) : Fault :=
      match r with
      | .ok (n, rest) => .here (.invalidType (.number n) wanted) rest
      | .error f => f
    if c = 'n' then behind .null (literal ['u', 'l', 'l'] t)
    else if c = 't' then behind (.bool true) (literal ['r', 'u', 'e'] t)
    else if c = 'f' then behind (.bool false) (literal ['a', 'l', 's', 'e'] t)
    else if c = '-' then numeral (numberBody true t)
    else if Numeral.isDigit c then numeral (numberBody false s)
    else if c = '"' then
      match stringBody t with
      | .ok (cs, rest) => .here (.invalidType (.string cs) wanted) rest
      | .error f => f
    else if c = '[' then .here (.invalidType .sequence wanted) s
    else if c = '{' then .here (.invalidType .map wanted) s
    else .next .expectedValue s

/-- A whole number of a fixed width; `fit?` takes those that the width holds. -/
def whole {α : Type} (wanted : String) (fit? : Int → Option α) : Reader α := fun s =>
  let fit (r : Except Fault (Number × List Char)) : Except Fault (α × List Char) := do
    let (n, rest) ← r
    let taken := match n with
      | .natural m => fit? m.toNat
      | .negative m => fit? (Int.negSucc m.val)
      | .float _ => none
    match n, taken with
    | _, some a => .ok (a, rest)
    | .float _, none => .error (.here (.invalidType (.number n) wanted) rest)
    | _, none => .error (.here (.invalidValue (.number n) wanted) rest)
  match skipSpace s with
  | [] => .error (.here .endInValue [])
  | c :: t =>
    if c = '-' then fit (numberBody true t)
    else if Numeral.isDigit c then fit (numberBody false (c :: t))
    else .error (unexpected wanted (c :: t))

/-- A number from 0 to `2^32 - 1`. -/
def word32 : Reader UInt32 :=
  whole "u32" fun
    | .ofNat n => if n < 0x100000000 then some (UInt32.ofNat n) else none
    | .negSucc _ => none

/-- A number from `-2^31` to `2^31 - 1`. -/
def int32 : Reader Int32 :=
  whole "i32" fun i => if -0x80000000 ≤ i && i < 0x80000000 then some (Int32.ofInt i) else none

/-- A string where `wanted` is wanted. -/
def stringFor (wanted : String) : Reader String := fun s =>
  match skipSpace s with
  | [] => .error (.here .endInValue [])
  | c :: t =>
    if c = '"' then (stringBody t).map fun r => (String.ofList r.1, r.2)
    else .error (unexpected wanted (c :: t))

/-- A string. -/
def text : Reader String :=
  stringFor "a string"

/-- A value or `null`. -/
def optional {α : Type} (reader : Reader α) : Reader (Option α) := fun s =>
  match skipSpace s with
  | 'n' :: t => (literal ['u', 'l', 'l'] t).map fun r => (none, r)
  | t => (reader t).map fun r => (some r.1, r.2)

/-- An array of values of one kind. -/
def list {α : Type} (rounds : Nat) (item : (levels : Nat) → Reader α) (levels : Nat) :
    Reader (List α) := fun s =>
  match skipSpace s with
  | [] => .error (.here .endInValue [])
  | c :: t =>
    if c = '[' then
      match levels with
      | 0 => .error (.here .tooDeep t)
      | levels + 1 => closed listEnding (items (item levels) rounds true t)
    else .error (unexpected "a sequence" (c :: t))

/-- A whole text that holds one value. -/
def document {α : Type} (reader : Reader α) (text : List Char) : Except Fault α := do
  let (a, rest) ← reader text
  match skipSpace rest with
  | [] => .ok a
  | more => .error (.next .trailingCharacters more)

/-- The value of a text. -/
def parse (text : List Char) : Except Fault Json :=
  document (value text.length deepest) text

end QuickFix.Json
