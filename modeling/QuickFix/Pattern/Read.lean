import QuickFix.Pattern.Bracket

/-!
# Reading patterns

Groups and alternatives nest; what has been read of the groups around a place is kept in a list, the
innermost first.
-/

set_option autoImplicit false

namespace QuickFix.Pattern

/-- The letters of the modes. -/
def modeLetters : List Char :=
  ['i', 'm', 's', 'U', 'u', 'R', 'x']

/-- The modes with one more letter switched on or off. -/
def Modes.switch (m : Modes) (letter : Char) (on : Bool) : Modes :=
  if letter == 'x' then { m with spaced := some on }
  else if letter == 'u' then { m with unicode := some on }
  else m

/-- The letters of modes up to a colon or a parenthesis, which is given back too. A hyphen, of which
there is at most one and not at the end, switches the letters behind it off; no letter comes
twice. -/
def modesAt : (seen : List Char) → (m : Modes) → List Char → Option (Modes × Char × List Char)
  | _, _, [] => none
  | seen, m, c :: s =>
    if c == ':' || c == ')' then
      if seen.head? == some '-' || (c == ')' && seen.isEmpty) then none else some (m, c, s)
    else if seen.contains c then none
    else if c == '-' then modesAt ('-' :: seen) m s
    else if modeLetters.contains c then modesAt (c :: seen) (m.switch c (!seen.contains '-')) s
    else none

/-- Whether a text can name a group. -/
def isGroupName : List Char → Bool
  | [] => false
  | c :: s =>
    (c == '_' || Text.isLetter c) &&
      s.all fun d => d == '_' || d == '.' || d == '[' || d == ']' || Text.isLetterOrNumber d

/-- What an opening parenthesis begins. -/
inductive Opening
  /-- No group, but modes for what follows. -/
  | modes (m : Modes)
  /-- A group with modes of its own. -/
  | group (m : Modes)
  /-- A group with a name. -/
  | named (name : List Char)

/-- What stands behind an opening parenthesis. Groups that look around are not there. -/
def openGroup (spaced : Bool) (s : List Char) : Option (Opening × List Char) :=
  match skip spaced s with
  | '?' :: 'P' :: '<' :: t => namedGroup t
  | '?' :: '<' :: t => namedGroup t
  | '?' :: t => do
    let (m, last, rest) ← modesAt [] {} t
    some (if last == ')' then .modes m else .group m, rest)
  | t => some (.group {}, t)
where
  /-- The name of a group, up to a closing angle bracket. -/
  namedGroup (t : List Char) : Option (Opening × List Char) := do
    let (name, rest) ← Text.cut? '>' t
    if isGroupName name then some (.named name, rest) else none

/-- What has been read between two parentheses: the alternatives before and the parts of the one
under way, the latest first. -/
structure Level where
  branches : List Expr := []
  items : List Expr := []

/-- The level with one more part. -/
def Level.add (l : Level) (e : Expr) : Level :=
  { l with items := e :: l.items }

/-- The level behind a bar. -/
def Level.branch (l : Level) : Level :=
  { branches := .ofItems l.items :: l.branches }

/-- What has been read, as one pattern. -/
def Level.whole (l : Level) : Expr :=
  if l.branches.isEmpty then .ofItems l.items
  else .alternatives (Expr.ofItems l.items :: l.branches).reverse

/-- The level with its last part repeated. There has to be one, and modes are none. -/
def Level.repeatLast? (l : Level) : Option Level :=
  match l.items with
  | [] => none
  | .modes _ :: _ => none
  | e :: es => some { l with items := .repeated e :: es }

/-- A group that is open: its modes, and what was there before it. -/
structure Outer where
  level : Level
  modes : Modes
  spaced : Bool

/-- The rest of a pattern. -/
def rest : (rounds : Nat) → (spaced : Bool) → (names : List (List Char)) → Level →
    (outer : List Outer) → List Char → Option Expr
  | 0, _, _, _, _, _ => none
  | rounds + 1, spaced, names, level, outer, s =>
    match skip spaced s with
    | [] => if outer.isEmpty then some level.whole else none
    | '(' :: t =>
      match openGroup spaced t with
      | none => none
      | some (.modes m, u) =>
        rest rounds (m.spaced.getD spaced) names (level.add (.modes m)) outer u
      | some (.group m, u) =>
        rest rounds (m.spaced.getD spaced) names {} (⟨level, m, spaced⟩ :: outer) u
      | some (.named name, u) =>
        if names.contains name then none
        else rest rounds spaced (name :: names) {} (⟨level, {}, spaced⟩ :: outer) u
    | ')' :: t =>
      match outer with
      | [] => none
      | o :: more =>
        rest rounds o.spaced names (o.level.add (.group o.modes level.whole)) more t
    | '|' :: t => rest rounds spaced names level.branch outer t
    | '[' :: t =>
      match bracket spaced t with
      | some (e, u) => rest rounds spaced names (level.add e) outer u
      | none => none
    | '{' :: _ => none
    | '\\' :: t =>
      match escape spaced t with
      | some (a, u) => rest rounds spaced names (level.add (.atom a)) outer u
      | none => none
    | c :: t =>
      if c == '?' || c == '*' || c == '+' then
        match level.repeatLast? with
        | some l => rest rounds spaced names l outer (if t.head? == some '?' then t.tail else t)
        | none => none
      else
        let a : Atom :=
          if c == '.' then .any else if c == '^' || c == '$' then .edge else .literal c
        rest rounds spaced names (level.add (.atom a)) outer t

/-- The pattern that a text is. -/
def read? (s : List Char) : Option Expr :=
  rest (s.length + 1) false [] {} [] s

end QuickFix.Pattern
