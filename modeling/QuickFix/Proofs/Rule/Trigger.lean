import QuickFix.Proofs.Rule.Basic

/-!
# Triggers keep the rules apart

A rule answers only on a line that starts with its trigger, blanks aside
(`exists_trigger_of_propose?`). No trigger starts with another one, although some have long
beginnings in common (`eq_of_trigger_startsWith`), while of two texts that a line starts with one
starts with the other. So at most one rule answers on a line, whatever the rules look for behind
their triggers or on other lines (`eq_of_fix?`).
-/

set_option autoImplicit false

namespace QuickFix.Rule

/-- The text that a line starts with when a rule answers on it. -/
def trigger : Rule → String
  | identifierSuggestion => "Hint: Did you mean"
  | missingRecordFields => "Some record fields are undefined:"
  | typeConversion => "You can convert "
  | topLevelUnitWrap => "Toplevel expression is expected to have unit type."
  | uncurriedDotInsert => "This is an uncurried ReScript function. It must be applied with a dot."
  | missingMatchCases => "You forgot to handle a possible case here, for example:"
  | optionalWrap => "Somewhere wanted: option<"

/-- No trigger is empty. -/
theorem trigger_ne_nil (rule : Rule) : rule.trigger.toList ≠ [] := by
  cases rule <;> simp [trigger]

/-- A line on which a rule answers behind its trigger starts with the trigger. -/
theorem exists_rest_of_triggered?_bind {α : Type} {t : String} {line : List Char}
    {f : List Char → Option α} {a : α} (h : (triggered? t line).bind f = some a) :
    ∃ rest, Text.trim line = t.toList ++ rest := by
  obtain ⟨rest, hrest, -⟩ := Option.bind_eq_some_iff.mp h
  exact ⟨rest, (triggered?_eq_some_iff t line rest).mp hrest⟩

/-- Every rule starts by asking for its trigger. -/
theorem exists_trigger_of_propose? {rule : Rule} {range : Range} {lines : List (List Char)}
    {i : Nat} {p : Proposal} (h : rule.propose? range lines i = some p) :
    ∃ line rest, lines[i]? = some line ∧ Text.trim line = rule.trigger.toList ++ rest := by
  obtain ⟨line, hline, hrule⟩ := (propose?_eq_some_iff rule range lines i p).mp h
  refine ⟨line, ?_⟩
  suffices hstart : ∃ rest, Text.trim line = rule.trigger.toList ++ rest by
    obtain ⟨rest, hrest⟩ := hstart
    exact ⟨rest, hline, hrest⟩
  cases rule with
  | optionalWrap =>
      -- this rule reads the wanted type first, and the reading asks for the trigger
      obtain ⟨wanted, hwanted, -⟩ := Option.bind_eq_some_iff.mp hrule
      rw [trigger]
      exact exists_rest_of_triggered?_bind hwanted
  | _ =>
      rw [trigger]
      exact exists_rest_of_triggered?_bind hrule

/-- No trigger starts with another one. -/
theorem eq_of_trigger_startsWith {rule other : Rule}
    (h : rule.trigger.toList <+: other.trigger.toList) : rule = other := by
  revert h
  cases rule <;> cases other <;> simp [trigger]

/-- **The rules exclude each other.** At most one rule answers on a line. -/
theorem eq_of_fix? {site : Site} {i : Nat} {rule other : Rule} {action action' : Action}
    (h : rule.fix? site i = some action) (h' : other.fix? site i = some action') :
    rule = other := by
  obtain ⟨p, hp, -⟩ := (fix?_eq_some_iff rule site i action).mp h
  obtain ⟨q, hq, -⟩ := (fix?_eq_some_iff other site i action').mp h'
  obtain ⟨line, rest, hline, htrim⟩ := exists_trigger_of_propose? hp
  obtain ⟨line', rest', hline', htrim'⟩ := exists_trigger_of_propose? hq
  obtain rfl : line = line' := Option.some.inj (hline.symm.trans hline')
  have hprefix : rule.trigger.toList <+: Text.trim line := ⟨rest, htrim.symm⟩
  have hprefix' : other.trigger.toList <+: Text.trim line := ⟨rest', htrim'.symm⟩
  -- of two texts that a line starts with, the longer one starts with the shorter one
  rcases List.prefix_or_prefix_of_prefix hprefix hprefix' with hle | hle
  · exact eq_of_trigger_startsWith hle
  · exact (eq_of_trigger_startsWith hle).symm

end QuickFix.Rule
