/-!
# JSON values

The values that reports hold and answers are made of. An object is the list of its members in the
order they are written.
-/

set_option autoImplicit false

namespace QuickFix

/-- A JSON number. Whole numbers that fit 64 bits are kept exactly, all others as doubles. -/
inductive Json.Number
  /-- A whole number from zero up. -/
  | natural (n : UInt64)
  /-- The whole number `-(n + 1)`. -/
  | negative (n : Fin 0x8000000000000000)
  /-- A finite double. -/
  | float (x : Float)

/-- A JSON value. -/
inductive Json
  | null
  | bool (b : Bool)
  | number (n : Json.Number)
  | string (s : String)
  | array (items : List Json)
  | object (members : List (String × Json))

namespace Json

/-- The whole number `-(n + 1)`, if it fits 64 bits. -/
def Number.belowZero (n : Nat) : Number :=
  .negative (Fin.ofNat 0x8000000000000000 n)

/-- A natural number that fits 64 bits as a value. -/
def ofNat (n : Nat) : Json :=
  .number (.natural (UInt64.ofNat n))

/-- A whole number that fits 64 bits as a value. -/
def ofInt : Int → Json
  | .ofNat n => ofNat n
  | .negSucc n => .number (.belowZero n)

/-- The members with `key` set to `v`, in ascending order of keys; a key that is there already takes
the new value. -/
def insertMember (key : String) (v : Json) : List (String × Json) → List (String × Json)
  | [] => [(key, v)]
  | (k, w) :: rest =>
    if key = k then (key, v) :: rest
    else if key < k then (key, v) :: (k, w) :: rest
    else (k, w) :: insertMember key v rest

/-- The value of an object's member. -/
def member? (key : String) : Json → Option Json
  | .object members => (members.find? fun m => m.1 == key).map Prod.snd
  | _ => none

end Json

end QuickFix
