import QuickFix.Proofs.Rule.MatchCases
import QuickFix.Proofs.Rule.RecordFields
import QuickFix.Proofs.Rule.Suggestion
import QuickFix.Proofs.Rule.Wrapping

/-!
# The edits of a rule

A rule's edits have one of four shapes, which depend on the rule and the range only, up to the texts
they put into the file: `Shaped` lists them, and `shaped_of_propose?` says that there are no others.
What holds of all edits is proved from the shapes: where they lie (`Shaped.ends_cases`), in which
order (`Shaped.pairwise`) and which of them replace anything (`Shaped.start_eq_stop`).
-/

set_option autoImplicit false

namespace QuickFix

/-- A position is one of the two ends of what an edit replaces. -/
def Edit.EndsAt (e : Edit) (p : Position) : Prop :=
  p = e.range.start ∨ p = e.range.stop

/-- Both ends of an insertion are the place where it is made. -/
theorem Edit.endsAt_insertion {p q : Position} {text : String}
    (h : (Edit.insertion q text).EndsAt p) : p = q :=
  h.elim id id

namespace Rule

/-- The edits that a rule can propose for a range. -/
inductive Shaped (range : Range) : Rule → List Edit → Prop
  | replaced (name : String) : Shaped range identifierSuggestion [⟨range, name⟩]
  | filled {rule : Rule} (text : String) :
      rule = missingRecordFields ∨ rule = missingMatchCases →
      Shaped range rule [range.insertBeforeLast text]
  | wrapped {rule : Rule} (opening closing : String) :
      rule = typeConversion ∨ rule = topLevelUnitWrap ∨ rule = optionalWrap →
      Shaped range rule (range.wrap opening closing)
  | dotted : Shaped range uncurriedDotInsert [.insertion range.stop.right ". "]

/-- The edits of a proposal have the shape of the rule that made it. -/
theorem shaped_of_propose? {rule : Rule} {range : Range} {lines : List (List Char)} {i : Nat}
    {p : Proposal} (h : rule.propose? range lines i = some p) : Shaped range rule p.edits := by
  obtain ⟨line, -, hrule⟩ := (propose?_eq_some_iff rule range lines i p).mp h
  cases rule with
  | identifierSuggestion =>
      rw [onLine?, suggestion_eq] at hrule
      obtain ⟨-, -, hname⟩ := Option.bind_eq_some_iff.mp hrule
      split at hname
      · cases hname
      · obtain rfl := Option.some.inj hname
        exact .replaced _
  | missingRecordFields =>
      obtain ⟨rest, -, -, rfl⟩ := (recordFields_eq_some_iff _ _ _ _).mp hrule
      exact .filled _ (.inl rfl)
  | typeConversion =>
      obtain ⟨name, -, hedits⟩ := exists_call_of_propose? (.inl rfl) h
      rw [hedits]
      exact .wrapped _ _ (.inl rfl)
  | topLevelUnitWrap =>
      obtain ⟨name, -, hedits⟩ := exists_call_of_propose? (.inr (.inl rfl)) h
      rw [hedits]
      exact .wrapped _ _ (.inr (.inl rfl))
  | uncurriedDotInsert =>
      obtain ⟨-, -, hproposal⟩ := Option.bind_eq_some_iff.mp hrule
      obtain rfl := Option.some.inj hproposal
      exact .dotted
  | missingMatchCases =>
      obtain ⟨rest, -, -, rfl⟩ := (matchCases_eq_some_iff _ _ _ _).mp hrule
      exact .filled _ (.inr rfl)
  | optionalWrap =>
      obtain ⟨name, -, hedits⟩ := exists_call_of_propose? (.inr (.inr rfl)) h
      rw [hedits]
      exact .wrapped _ _ (.inr (.inr rfl))

variable {range : Range} {rule : Rule} {edits : List Edit}

/-- A rule proposes one edit or two. -/
theorem Shaped.length_eq (h : Shaped range rule edits) : edits.length = 1 ∨ edits.length = 2 := by
  cases h with
  | wrapped opening closing _ => exact .inr rfl
  | _ => exact .inl rfl

/-- The suggestion replaces the range itself. -/
theorem Shaped.eq_replacement (h : Shaped range rule edits) (hrule : rule = identifierSuggestion) :
    ∃ name, edits = [⟨range, name⟩] := by
  cases h with
  | replaced name => exact ⟨name, rfl⟩
  | filled text hfilled =>
      rw [hrule] at hfilled
      rcases hfilled with hfilled | hfilled
      · cases hfilled
      · cases hfilled
  | wrapped opening closing hwrapped =>
      rw [hrule] at hwrapped
      rcases hwrapped with hwrapped | hwrapped | hwrapped
      · cases hwrapped
      · cases hwrapped
      · cases hwrapped
  | dotted => cases hrule

/-- Every other rule only inserts. -/
theorem Shaped.start_eq_stop (h : Shaped range rule edits) (hrule : rule ≠ identifierSuggestion) :
    ∀ e ∈ edits, e.range.start = e.range.stop := by
  intro e he
  cases h with
  | replaced name => exact absurd rfl hrule
  | filled text _ =>
      obtain rfl := List.mem_singleton.mp he
      rfl
  | wrapped opening closing _ =>
      rcases List.mem_pair.mp he with rfl | rfl
      · rfl
      · rfl
  | dotted =>
      obtain rfl := List.mem_singleton.mp he
      rfl

/-- Where the edits lie: at the ends of the range, or one column off an end. Only a range without
extent has an edit to the left of its start, and only the dot goes to the right of the end. -/
theorem Shaped.ends_cases (h : Shaped range rule edits) {e : Edit} (he : e ∈ edits) {p : Position}
    (hp : e.EndsAt p) :
    p = range.start ∨ p = range.stop ∨ p = range.stop.left ∨
      (range.start = range.stop ∧ p = range.start.left) ∨
        (rule = uncurriedDotInsert ∧ p = range.stop.right) := by
  cases h with
  | replaced name =>
      obtain rfl := List.mem_singleton.mp he
      rcases hp with rfl | rfl
      · exact .inl rfl
      · exact .inr (.inl rfl)
  | filled text _ =>
      obtain rfl := List.mem_singleton.mp he
      exact .inr (.inr (.inl (Edit.endsAt_insertion hp)))
  | wrapped opening closing _ =>
      rcases List.mem_pair.mp he with rfl | rfl
      · have hstart := Edit.endsAt_insertion hp
        split at hstart
        · rename_i hempty
          exact .inr (.inr (.inr (.inl ⟨hempty, hstart⟩)))
        · exact .inl hstart
      · exact .inr (.inl (Edit.endsAt_insertion hp))
  | dotted =>
      obtain rfl := List.mem_singleton.mp he
      exact .inr (.inr (.inr (.inr ⟨rfl, Edit.endsAt_insertion hp⟩)))

/-- No edit lies further off the range than a column. -/
theorem Shaped.near (h : Shaped range rule edits) (hrange : range.start ≤ range.stop) {e : Edit}
    (he : e ∈ edits) {p : Position} (hp : e.EndsAt p) :
    range.start.left ≤ p ∧ p ≤ range.stop.right := by
  have hleft := range.start.left_le
  have hright := range.stop.le_right
  rcases h.ends_cases he hp with rfl | rfl | rfl | ⟨-, rfl⟩ | ⟨-, rfl⟩
  · exact ⟨hleft, Position.le_trans hrange hright⟩
  · exact ⟨Position.le_trans hleft hrange, hright⟩
  · exact ⟨Position.left_le_left hrange, Position.le_trans (Position.left_le _) hright⟩
  · exact ⟨Position.le_refl _, Position.le_trans hleft (Position.le_trans hrange hright)⟩
  · exact ⟨Position.le_trans hleft (Position.le_trans hrange hright), Position.le_refl _⟩

/-- The edits of a range with some extent lie in it, apart from the dot. -/
theorem Shaped.inside (h : Shaped range rule edits) (hrange : range.start < range.stop)
    (hrule : rule ≠ uncurriedDotInsert) {e : Edit} (he : e ∈ edits) {p : Position}
    (hp : e.EndsAt p) : range.start ≤ p ∧ p ≤ range.stop := by
  have hle := Position.le_of_lt hrange
  rcases h.ends_cases he hp with rfl | rfl | rfl | ⟨hempty, -⟩ | ⟨hdot, -⟩
  · exact ⟨Position.le_refl _, hle⟩
  · exact ⟨hle, Position.le_refl _⟩
  · exact ⟨Position.le_left_of_lt hrange, Position.left_le _⟩
  · rw [hempty, Position.lt_iff] at hrange
    omega
  · exact absurd hdot hrule

/-- In a range whose ends are in order, so are the ends of every edit. -/
theorem Shaped.start_le_stop (h : Shaped range rule edits) (hrange : range.start ≤ range.stop) :
    ∀ e ∈ edits, e.range.start ≤ e.range.stop := by
  intro e he
  by_cases hrule : rule = identifierSuggestion
  · obtain ⟨name, rfl⟩ := h.eq_replacement hrule
    obtain rfl := List.mem_singleton.mp he
    exact hrange
  · rw [h.start_eq_stop hrule e he]
    exact Position.le_refl _

/-- An edit ends where the next one starts or before. -/
theorem Shaped.pairwise (h : Shaped range rule edits) (hrange : range.start ≤ range.stop) :
    edits.Pairwise fun e f => e.range.stop ≤ f.range.start := by
  cases h with
  | wrapped opening closing _ =>
      refine List.pairwise_pair.mpr ?_
      show (if range.start = range.stop then range.start.left else range.start) ≤ range.stop
      split
      · exact Position.le_trans (Position.left_le _) hrange
      · exact hrange
  | _ => exact List.pairwise_singleton _ _

end Rule

end QuickFix
