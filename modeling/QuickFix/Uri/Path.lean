import QuickFix.Uri.Basic

/-!
# File paths as URIs

A path of components becomes `file://` followed by each component behind a slash. In a component the
octets of everything but a set of plain characters are percent-encoded.
-/

set_option autoImplicit false

namespace QuickFix.Uri

/-- The components of a path: empty ones and single dots say nothing, and two dots are kept. -/
def components (path : List Char) : List (List Char) :=
  (Text.pieces (· == '/') path).filter fun c => !c.isEmpty && c != ['.']

/-- The components of a path from the root on. -/
def fromRoot (workingDirectory path : List Char) : List (List Char) :=
  match path with
  | '/' :: _ => components path
  | _ => components workingDirectory ++ components path

/-- A character that a component may not hold as itself: controls, what lies beyond ASCII, and those
with a meaning in or around URIs. -/
def isEncoded (c : Char) : Bool :=
  c.toNat < 0x20 || 0x7F ≤ c.toNat ||
    [' ', '"', '<', '>', '`', '#', '?', '{', '}', '/', '%', '\\'].contains c

/-- The upper-case hexadecimal digit of a number below sixteen. -/
def upperHex (n : Nat) : Char :=
  if n < 10 then Char.ofNat ('0'.toNat + n) else Char.ofNat ('A'.toNat + (n - 10))

/-- An octet behind a percent sign. -/
def percentEncoded (b : UInt8) : List Char :=
  ['%', upperHex (b.toNat / 16), upperHex (b.toNat % 16)]

/-- A component with its characters encoded. -/
def encodedComponent (component : List Char) : List Char :=
  component.flatMap fun c =>
    if isEncoded c then (String.utf8EncodeChar c).flatMap percentEncoded else [c]

/-- The text of the URI of components from the root on. -/
def fileText (components : List (List Char)) : List Char :=
  "file://".toList ++
    match components with
    | [] => ['/']
    | cs => cs.flatMap fun c => '/' :: encodedComponent c

/-- Why a text names no document. -/
inductive PathFault
  | empty
  | refused (text : String) (refusal : Refusal)

/-- The fault in words. -/
def PathFault.message : PathFault → String
  | .empty => "cannot make an empty path absolute"
  | .refused text refusal => refusalMessage text refusal

/-- The URI of a document: a text with `://` in it is one already, any other text is a file path. -/
def ofDocument (workingDirectory : List Char) (path : String) : Except PathFault Uri :=
  if Text.occurs [':', '/', '/'] path.toList then
    (parse path).mapError (.refused path)
  else if path.isEmpty then .error .empty
  else
    let text := String.ofList (fileText (fromRoot workingDirectory path.toList))
    (parse text).mapError (.refused text)

end QuickFix.Uri
