import QuickFix.Proofs.Document
import QuickFix.Proofs.Position
import QuickFix.Proofs.Trimming
import QuickFix.Rule.Basic

/-!
# Answers of a rule

How a rule's action on a line of a site comes from its proposal, and the proposal from the line with
the lines around it (`propose?_eq_some_iff`); when a line has a trigger, and when a rule that
collects texts from a message has found some; and the padding that rules write. The statements about
single rules start from these.
-/

set_option autoImplicit false

namespace QuickFix.Rule

/-- A line has a trigger if it starts with it, blanks aside; what follows is the rest. -/
theorem triggered?_eq_some_iff (trigger : String) (line rest : List Char) :
    triggered? trigger line = some rest ↔ Text.trim line = trigger.toList ++ rest :=
  Text.after?_eq_some_iff trigger.toList (Text.trim line) rest

/-- A line triggers as it does trimmed. -/
theorem triggered?_trim (trigger : String) (line : List Char) :
    triggered? trigger (Text.trim line) = triggered? trigger line := by
  unfold triggered?
  rw [Text.trim_trim]

/-- A rule's action is the quick fix of its proposal, for the site's file and diagnostic. -/
theorem fix?_eq_some_iff (rule : Rule) (site : Site) (i : Nat) (action : Action) :
    rule.fix? site i = some action ↔
      ∃ p, rule.propose? site.range site.lines i = some p ∧
        action = p.toAction site.uri site.diagnostic := by
  unfold fix?
  rw [Option.map_eq_some_iff]
  constructor
  · rintro ⟨p, hp, rfl⟩
    exact ⟨p, hp, rfl⟩
  · rintro ⟨p, hp, rfl⟩
    exact ⟨p, hp, rfl⟩

/-- What a rule proposes on a line, with the line above it and the lines below it. -/
def onLine? (rule : Rule) (range : Range) (line : List Char) (above : Option (List Char))
    (below : List (List Char)) : Option Proposal :=
  match rule with
  | identifierSuggestion => suggestion range line
  | missingRecordFields => recordFields range line below
  | typeConversion => conversion range line
  | topLevelUnitWrap => unitWrap range line
  | uncurriedDotInsert => uncurriedDot range line
  | missingMatchCases => matchCases range line below
  | optionalWrap => someWrap range line above

/-- A proposal depends on its line, the line above it and the lines below it. -/
theorem propose?_eq_bind (rule : Rule) (range : Range) (lines : List (List Char)) (i : Nat) :
    rule.propose? range lines i = lines[i]?.bind fun line =>
      rule.onLine? range line (above? lines i) (lines.drop (i + 1)) := by
  cases rule <;> rfl

/-- A rule proposes what it proposes on the line, if there is one. -/
theorem propose?_eq_some_iff (rule : Rule) (range : Range) (lines : List (List Char)) (i : Nat)
    (p : Proposal) :
    rule.propose? range lines i = some p ↔
      ∃ line, lines[i]? = some line ∧
        rule.onLine? range line (above? lines i) (lines.drop (i + 1)) = some p := by
  rw [propose?_eq_bind, Option.bind_eq_some_iff]

/-- Lines put behind do not change the line above one of the others. -/
theorem above?_append {lines : List (List Char)} {i : Nat} (h : i < lines.length)
    (more : List (List Char)) : above? (lines ++ more) i = above? lines i := by
  cases i with
  | zero => rfl
  | succ i => exact List.getElem?_append_left (by omega)

/-- A rule's action on a line of a site is the quick fix of what it proposes there. -/
theorem fix?_eq_some_iff_onLine? (rule : Rule) (site : Site) (i : Nat) (action : Action) :
    rule.fix? site i = some action ↔
      ∃ line p, site.lines[i]? = some line ∧
        rule.onLine? site.range line (above? site.lines i) (site.lines.drop (i + 1)) = some p ∧
        action = p.toAction site.uri site.diagnostic := by
  rw [fix?_eq_some_iff]
  simp only [propose?_eq_some_iff]
  constructor
  · rintro ⟨p, ⟨line, hline, hp⟩, rfl⟩
    exact ⟨line, p, hline, hp, rfl⟩
  · rintro ⟨line, p, hline, hp, rfl⟩
    exact ⟨p, ⟨line, hline, hp⟩, rfl⟩

/-- There is no proposal behind the last line. -/
theorem propose?_eq_none_of_length_le (rule : Rule) (range : Range) {lines : List (List Char)}
    {i : Nat} (h : lines.length ≤ i) : rule.propose? range lines i = none := by
  rw [propose?_eq_bind, List.getElem?_eq_none h]
  rfl

/-- There is no fix behind the last line. -/
theorem fix?_eq_none_of_length_le (rule : Rule) {site : Site} {i : Nat}
    (h : site.lines.length ≤ i) : rule.fix? site i = none := by
  unfold fix?
  rw [rule.propose?_eq_none_of_length_le site.range h]
  rfl

/-- The padding up to the closing delimiter of a range is one column shorter than the range's last
line. -/
theorem units_padding_closing {range : Range} {c : Nat}
    (h : range.stop.character.toNat = c + 1) :
    Text.units (padding range.closing.character) = List.replicate c Text.space := by
  rw [padding, Range.toNat_closing_character h, Text.units_replicate_space]

/-- A rule that collects texts behind its trigger proposes something exactly if it finds one. -/
theorem collecting_eq_some_iff (trigger : String) (line : List Char)
    (collect : List Char → List (List Char)) (make : List (List Char) → Proposal) (p : Proposal) :
    (do
      let rest ← triggered? trigger line
      if (collect rest).isEmpty then none else some (make (collect rest))) = some p ↔
      ∃ rest, Text.trim line = trigger.toList ++ rest ∧ collect rest ≠ [] ∧
        p = make (collect rest) := by
  refine Option.bind_eq_some_iff.trans (exists_congr fun rest => ?_)
  rw [triggered?_eq_some_iff]
  refine and_congr_right fun _ => ?_
  by_cases h : collect rest = []
  · simp [h]
  · rw [if_neg (by simpa using h), Option.some.injEq]
    exact ⟨fun hp => ⟨h, hp.symm⟩, fun hp => hp.2.symm⟩

end QuickFix.Rule
