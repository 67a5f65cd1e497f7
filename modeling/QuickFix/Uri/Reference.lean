import QuickFix.Uri.Address

/-!
# URI references

A reference is an absolute or a relative identifier: an optional scheme and authority, a path, and
an optional query and fragment. Reading one checks every character; the first that fits nowhere is
reported with its index.
-/

set_option autoImplicit false

namespace QuickFix.Uri

/-- What is wrong with a text that is no reference. -/
inductive Flaw
  | character
  | percent
  | address
  deriving DecidableEq, Repr

/-- A flaw and the characters left from it on. -/
structure Refusal where
  flaw : Flaw
  left : Nat
  deriving DecidableEq, Repr

/-- The refusal of a text with `total` characters in words. -/
def Refusal.message (total : Nat) (r : Refusal) : String :=
  let what := match r.flaw with
    | .character => "unexpected character"
    | .percent => "invalid percent-encoded octet"
    | .address => "invalid IP literal"
  what ++ " at index " ++ String.ofList (Numeral.digits (total - r.left))

/-- What a host is. -/
inductive HostKind
  | name
  | dotted (octets : List Nat)
  | groups (groups : List Nat)
  deriving DecidableEq, Repr

/-- A host as written, brackets included, and what it is. -/
structure Host where
  text : String
  kind : HostKind
  deriving DecidableEq, Repr

/-- Who serves the resource. -/
structure Authority where
  userinfo : Option String
  host : Host
  port : Option String
  deriving DecidableEq, Repr

/-- The parts of a reference, as written. -/
structure Reference where
  scheme : Option String
  authority : Option Authority
  path : String
  query : Option String
  fragment : Option String
  deriving DecidableEq, Repr

/-- A character that may stand for itself anywhere. -/
def isUnreserved (c : Char) : Bool :=
  Text.isPlain c || c == '-' || c == '.' || c == '_' || c == '~'

/-- A delimiter inside a part. -/
def isSubDelimiter (c : Char) : Bool :=
  ['!', '$', '&', '\'', '(', ')', '*', '+', ',', ';', '='].contains c

/-- A character of a scheme. -/
def isSchemeChar (c : Char) : Bool :=
  Text.isPlain c || c == '+' || c == '-' || c == '.'

/-- A character of a registered name. -/
def isNameChar (c : Char) : Bool :=
  isUnreserved c || isSubDelimiter c

/-- A character of user information. -/
def isUserChar (c : Char) : Bool :=
  isNameChar c || c == ':'

/-- A character of the first segment of a relative path. -/
def isFirstSegmentChar (c : Char) : Bool :=
  isNameChar c || c == '@'

/-- A character of a path. -/
def isPathChar (c : Char) : Bool :=
  isNameChar c || c == ':' || c == '@' || c == '/'

/-- A character of a query or a fragment. -/
def isQueryChar (c : Char) : Bool :=
  isPathChar c || c == '?'

/-- The longest run of characters of a class and percent-encoded octets, and the rest. -/
def scan (allowed : Char → Bool) : List Char → Except Refusal (List Char × List Char)
  | [] => .ok ([], [])
  | c :: s =>
    if c = '%' then
      match s with
      | a :: b :: t =>
        if isHex a && isHex b then (scan allowed t).map fun r => (c :: a :: b :: r.1, r.2)
        else .error ⟨.percent, (c :: s).length⟩
      | _ => .error ⟨.percent, (c :: s).length⟩
    else if allowed c then (scan allowed s).map fun r => (c :: r.1, r.2)
    else .ok ([], c :: s)

/-- A host that is no bracketed address. -/
def plainHost (s : List Char) : Host :=
  { text := String.ofList s
    kind := match dotted? s with
      | some octets => .dotted octets
      | none => .name }

/-- The bracketed address at the start of a text. -/
def bracketedHost (s : List Char) : Except Refusal (Host × List Char) :=
  match Text.cut? ']' (s.drop 1) with
  | none => .error ⟨.address, s.length⟩
  | some (inner, rest) =>
    match eightGroups? inner with
    | none => .error ⟨.address, s.length⟩
    | some groups => .ok (⟨String.ofList ('[' :: inner ++ [']']), .groups groups⟩, rest)

/-- The port behind a host. -/
def portAt : List Char → Option String × List Char
  | ':' :: s => (some (String.ofList (s.takeWhile Numeral.isDigit)), s.dropWhile Numeral.isDigit)
  | s => (none, s)

/-- A text that was read as user information and is host and port. -/
def hostAndPort (scanned rest : List Char) : Except Refusal Authority :=
  match Text.cut? ':' scanned with
  | none => .ok ⟨none, plainHost scanned, none⟩
  | some (host, port) =>
    if port.contains ':' then .error ⟨.character, port.length + 1 + rest.length⟩
    else
      match port.reverse.dropWhile Numeral.isDigit with
      | [] => .ok ⟨none, plainHost host, some (String.ofList port)⟩
      | misfit => .error ⟨.character, port.length - misfit.length + 1 + rest.length⟩

/-- The authority behind two slashes. -/
def authorityAt (s : List Char) : Except Refusal (Authority × List Char) := do
  let (scanned, rest) ← scan isUserChar s
  match rest with
  | '@' :: t =>
    let (host, t) ← match t with
      | '[' :: _ => bracketedHost t
      | _ => (scan isNameChar t).map fun r => (plainHost r.1, r.2)
    let (port, t) := portAt t
    .ok (⟨some (String.ofList scanned), host, port⟩, t)
  | _ =>
    if scanned.isEmpty then
      match rest with
      | '[' :: _ =>
        let (host, t) ← bracketedHost rest
        let (port, t) := portAt t
        .ok (⟨none, host, port⟩, t)
      | _ => .ok (⟨none, plainHost [], none⟩, rest)
    else (hostAndPort scanned rest).map fun a => (a, rest)

/-- Query and fragment, which end a reference. -/
def queryAndFragment (s : List Char) : Except Refusal (Option String × Option String) := do
  let (query, s) ← match s with
    | '?' :: t => (scan isQueryChar t).map fun r => (some (String.ofList r.1), r.2)
    | _ => .ok (none, s)
  let (fragment, s) ← match s with
    | '#' :: t => (scan isQueryChar t).map fun r => (some (String.ofList r.1), r.2)
    | _ => .ok (none, s)
  if s.isEmpty then .ok (query, fragment) else .error ⟨.character, s.length⟩

/-- The reference that ends with this path and what follows it. -/
def finish (scheme : Option String) (authority : Option Authority) (path rest : List Char) :
    Except Refusal Reference := do
  let (query, fragment) ← queryAndFragment rest
  .ok ⟨scheme, authority, String.ofList path, query, fragment⟩

/-- The reference behind the two slashes of an authority: the path is empty or starts with one. -/
def withAuthority (scheme : Option String) (s : List Char) : Except Refusal Reference := do
  let (authority, s) ← authorityAt s
  let (path, rest) ← scan isPathChar s
  match path with
  | [] => finish scheme (some authority) path rest
  | c :: _ =>
    if c = '/' then finish scheme (some authority) path rest else .error ⟨.character, s.length⟩

/-- A reference behind its scheme. -/
def withScheme (scheme : String) : List Char → Except Refusal Reference
  | '/' :: '/' :: s => withAuthority (some scheme) s
  | s => do
    let (path, rest) ← scan isPathChar s
    finish (some scheme) none path rest

/-- A relative reference without authority, whose path starts with `scanned`: a colon in the first
segment would make that a scheme. -/
def relative (scanned s : List Char) : Except Refusal Reference := do
  let (first, t) ← scan isFirstSegmentChar s
  match t with
  | ':' :: _ => .error ⟨.character, t.length⟩
  | _ =>
    let (more, rest) ← scan isPathChar t
    finish none none (scanned ++ first ++ more) rest

/-- The parts of a reference. -/
def Reference.parse (s : List Char) : Except Refusal Reference :=
  let scanned := s.takeWhile isSchemeChar
  let rest := s.dropWhile isSchemeChar
  match rest with
  | ':' :: t =>
    match scanned with
    | [] => .error ⟨.character, s.length⟩
    | c :: _ =>
      if Text.isPlain c && !Numeral.isDigit c then withScheme (String.ofList scanned) t
      else .error ⟨.character, s.length⟩
  | '/' :: '/' :: t => if scanned.isEmpty then withAuthority none t else relative scanned rest
  | _ => relative scanned rest

end QuickFix.Uri
