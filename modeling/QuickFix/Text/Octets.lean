/-!
# Text written as octets

Reading UTF-8. Octets that belong to no character are reported as one gap for each longest start of
a character that breaks off, so the result shows a text with its faults in place.
-/

set_option autoImplicit false

namespace QuickFix.Text

/-- A character begun by its first octets: the bits read, the octets still owed, and the bounds that
the next octet has to keep. -/
structure Begun where
  bits : Nat
  owed : Nat
  least : Nat
  greatest : Nat

/-- What one octet leads to. -/
inductive Fed
  | more (begun : Begun)
  | done (c : Char)
  | refused

/-- An octet that begins a character. -/
def feedFirst (b : UInt8) : Fed :=
  let n := b.toNat
  if n ≤ 0x7F then .done (Char.ofNat n)
  else if 0xC2 ≤ n && n ≤ 0xDF then .more ⟨n - 0xC0, 1, 0x80, 0xBF⟩
  else if 0xE0 ≤ n && n ≤ 0xEF then
    .more ⟨n - 0xE0, 2, if n = 0xE0 then 0xA0 else 0x80, if n = 0xED then 0x9F else 0xBF⟩
  else if 0xF0 ≤ n && n ≤ 0xF4 then
    .more ⟨n - 0xF0, 3, if n = 0xF0 then 0x90 else 0x80, if n = 0xF4 then 0x8F else 0xBF⟩
  else .refused

/-- An octet that continues a character. -/
def Begun.feed (begun : Begun) (b : UInt8) : Fed :=
  let n := b.toNat
  if begun.least ≤ n && n ≤ begun.greatest then
    let bits := begun.bits * 64 + (n - 0x80)
    if begun.owed ≤ 1 then .done (Char.ofNat bits) else .more ⟨bits, begun.owed - 1, 0x80, 0xBF⟩
  else .refused

/-- The characters of the octets, with `none` for a stretch that is no character; `begun` is the
character under way. An octet that breaks off a character may begin the next one. -/
def charactersFrom : Option Begun → List UInt8 → List (Option Char)
  | none, [] => []
  | some _, [] => [none]
  | none, b :: bs =>
    match feedFirst b with
    | .more begun => charactersFrom (some begun) bs
    | .done c => some c :: charactersFrom none bs
    | .refused => none :: charactersFrom none bs
  | some begun, b :: bs =>
    match begun.feed b with
    | .more begun' => charactersFrom (some begun') bs
    | .done c => some c :: charactersFrom none bs
    | .refused =>
      none ::
        match feedFirst b with
        | .more begun' => charactersFrom (some begun') bs
        | .done c => some c :: charactersFrom none bs
        | .refused => none :: charactersFrom none bs

/-- The characters that octets stand for, with `none` where they stand for none. -/
def characters (octets : List UInt8) : List (Option Char) :=
  charactersFrom none octets

/-- The text, if every part of it is a character. -/
def whole? : List (Option Char) → Option (List Char)
  | [] => some []
  | some c :: s => (whole? s).map (c :: ·)
  | none :: _ => none

/-- The text with U+FFFD in place of what is no character. -/
def shown (s : List (Option Char)) : List Char :=
  s.map fun c => c.getD '�'

/-- The number of octets a text takes. -/
def octetCount (s : List Char) : Nat :=
  s.foldl (fun n c => n + c.utf8Size) 0

end QuickFix.Text
