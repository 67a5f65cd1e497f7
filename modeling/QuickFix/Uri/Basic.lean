import QuickFix.Uri.Reference

/-!
# URIs

A URI is kept as it was written; two are the same only if they are written the same.
-/

set_option autoImplicit false

namespace QuickFix

/-- A text that is a URI reference. -/
structure Uri where
  text : String
  accepted : (Uri.Reference.parse text.toList).isOk = true

namespace Uri

instance : DecidableEq Uri := fun u v =>
  if h : u.text = v.text then
    .isTrue (by cases u; cases v; cases h; rfl)
  else .isFalse fun e => h (congrArg Uri.text e)

/-- The URI that a text is. -/
def parse (text : String) : Except Refusal Uri :=
  match h : Reference.parse text.toList with
  | .ok _ => .ok ⟨text, by rw [h]; rfl⟩
  | .error r => .error r

/-- The parts of a URI. -/
def reference? (u : Uri) : Option Reference :=
  (Reference.parse u.text.toList).toOption

/-- The words for a text that is no URI. -/
def refusalMessage (text : String) (r : Refusal) : String :=
  r.message text.length

end Uri

end QuickFix
