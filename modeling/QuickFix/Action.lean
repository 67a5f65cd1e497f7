import QuickFix.Diagnostic.Encode
import QuickFix.Edit

/-!
# Actions

What an editor offers to the user: a title and the changes behind it.
-/

set_option autoImplicit false

namespace QuickFix

/-- An offer to the user. Lists that are empty count as not given. -/
structure Action where
  title : String
  kind : Option String := none
  /-- The diagnostics that the action settles. -/
  diagnostics : List Diagnostic := []
  /-- The edits of each file that changes. -/
  changes : List (Uri × List Edit) := []
  isPreferred : Bool := false

/-- A title and the edits behind it, before they are tied to a file and a diagnostic. -/
structure Proposal where
  title : String
  edits : List Edit
  deriving DecidableEq, Repr

/-- The preferred quick fix of one file for one diagnostic. -/
def Proposal.toAction (p : Proposal) (uri : Uri) (diagnostic : Diagnostic) : Action :=
  { title := p.title
    kind := some "quickfix"
    diagnostics := [diagnostic]
    changes := [(uri, p.edits)]
    isPreferred := true }

/-- An edit as a value. -/
def Edit.toJson (e : Edit) : Json :=
  .object [("range", e.range.toJson), ("newText", .string e.newText)]

/-- The changes of files as a value. -/
def changesJson (changes : List (Uri × List Edit)) : Json :=
  .object [("changes",
    .object (changes.map fun (uri, edits) => (uri.text, .array (edits.map Edit.toJson))))]

/-- An action as a value; what is not given is left out. -/
def Action.toJson (a : Action) : Json :=
  .object <|
    [("title", .string a.title)] ++
    optionalMember "kind" .string a.kind ++
    (if a.diagnostics.isEmpty then []
      else [("diagnostics", .array (a.diagnostics.map Diagnostic.toJson))]) ++
    (if a.changes.isEmpty then [] else [("edit", changesJson a.changes)]) ++
    (if a.isPreferred then [("isPreferred", .bool true)] else [])

end QuickFix
