/-!
# Text as a terminal shows it

A terminal takes some characters as orders: single controls, and the sequences that an escape
character begins. What it shows is the text without them. Parts of a text may be marked, which is
itself done by such sequences, so no sequence reaches across the ends of a marked part.
-/

set_option autoImplicit false

namespace QuickFix.Text

/-- What a terminal is in the middle of. -/
inductive Pending
  /-- Nothing: characters are shown. -/
  | nothing
  /-- An escape character came. -/
  | escape
  /-- An escape sequence with intermediate characters. -/
  | escapeIntermediate
  /-- A control sequence with parameters, up to its final letter. -/
  | sequence
  /-- A device control string, before its parameters. -/
  | deviceStart
  | deviceParameters
  | deviceIntermediate
  /-- The body of a device control string, or a string that is ignored. -/
  | hiddenString
  /-- A command to the operating system. -/
  | command
  deriving DecidableEq, Repr

/-- Whether one of the octets of a character beyond ASCII is `0x9C`, the end of a string. -/
def holdsStringEnd (c : Char) : Bool :=
  let n := c.toNat
  n % 64 == 28 || (0x800 ≤ n && n / 64 % 64 == 28) || (0x10000 ≤ n && n / 4096 % 64 == 28)

/-- A control that moves the place of writing, and so belongs to the text. -/
def isSpacing (c : Char) : Bool :=
  c == '\t' || c == '\n' || c.toNat == 0x0C || c == '\r'

/-- What follows an escape character. -/
def Pending.afterEscape (n : Nat) : Pending :=
  if n < 0x30 then .escapeIntermediate
  else if n == 0x50 then .deviceStart
  else if n == 0x58 || n == 0x5E || n == 0x5F then .hiddenString
  else if n == 0x5B then .sequence
  else if n == 0x5D then .command
  else .nothing

/-- What a printable ASCII character with number `n` leads to. -/
def Pending.takes (n : Nat) : Pending → Pending
  | .nothing => .nothing
  | .escape => afterEscape n
  | .escapeIntermediate => if n < 0x30 then .escapeIntermediate else .nothing
  | .sequence => if n < 0x40 then .sequence else .nothing
  | .deviceStart =>
    if n < 0x30 then .deviceIntermediate else if n < 0x40 then .deviceParameters else .hiddenString
  | .deviceParameters =>
    if n < 0x30 then .deviceIntermediate
    else if n < 0x3C then .deviceParameters
    else .hiddenString
  | .deviceIntermediate => if n < 0x30 then .deviceIntermediate else .hiddenString
  | .hiddenString => .hiddenString
  | .command => .command

/-- Whether controls are obeyed inside of this, and not swallowed. -/
def Pending.obeys : Pending → Bool
  | .nothing | .escape | .escapeIntermediate | .sequence => true
  | _ => false

/-- What a character leads to, and whether it is shown. -/
def Pending.step (p : Pending) (c : Char) : Pending × Bool :=
  let n := c.toNat
  if n == 0x1B then (.escape, false)
  else if n == 0x18 || n == 0x1A then (.nothing, false)
  else if n < 0x20 then
    if p.obeys && isSpacing c then (.nothing, true)
    else if p = .command && n == 0x07 then (.nothing, false)
    else (p, false)
  else if n < 0x7F then (p.takes n, p = .nothing)
  else if n == 0x7F then (p, false)
  else if p = .hiddenString && holdsStringEnd c then (.nothing, false)
  else (p, p = .nothing)

/-- What a terminal shows of a text, and what it is in the middle of at the end. -/
def shownFrom : Pending → List Char → List Char × Pending
  | p, [] => ([], p)
  | p, c :: s =>
    let (q, isShown) := p.step c
    let (t, r) := shownFrom q s
    (if isShown then c :: t else t, r)

/-- A part of a text, which may be marked. -/
structure Span where
  text : String
  marked : Bool

/-- A part without a mark. -/
def Span.plain (s : String) : Span :=
  ⟨s, false⟩

/-- A part with a mark. -/
def Span.mark (s : String) : Span :=
  ⟨s, true⟩

/-- What a terminal shows of parts of a text. -/
def visibleFrom : Pending → List Span → List Char
  | _, [] => []
  | p, s :: rest =>
    if s.marked then (shownFrom .nothing s.text.toList).1 ++ visibleFrom .nothing rest
    else
      let (t, q) := shownFrom p s.text.toList
      t ++ visibleFrom q rest

/-- What a terminal shows of parts of a text. -/
def visible (spans : List Span) : String :=
  String.ofList (visibleFrom .nothing spans)

end QuickFix.Text
