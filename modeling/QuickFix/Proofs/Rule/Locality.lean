import QuickFix.Proofs.Rule.MatchCases
import QuickFix.Proofs.Rule.RecordFields

/-!
# What an answer depends on

A rule looks at its line, and few rules look further: one at the line above, two at the lines below
(`onLine?_congr`). The diagnostic itself is not looked at, only handed on.

From this follows what other lines can do to an answer. Lines before a message only move its lines
(`propose?_append_right`), except that the message's first line gets a line above it. Lines behind a
message are not seen by the rules that do not look below (`propose?_append_left`). The two that do
find at least what they found before, so that they still answer, with the same title and at the same
place (`exists_onLine?_append`).
-/

set_option autoImplicit false

namespace QuickFix.Rule

/-- Which lines a rule looks at besides its own. -/
theorem onLine?_congr (rule : Rule) (range : Range) (line : List Char)
    {above above' : Option (List Char)} {below below' : List (List Char)}
    (habove : rule = optionalWrap → above = above')
    (hbelow : rule = missingRecordFields ∨ rule = missingMatchCases → below = below') :
    rule.onLine? range line above below = rule.onLine? range line above' below' := by
  cases rule with
  | missingRecordFields => rw [onLine?, onLine?, hbelow (.inl rfl)]
  | missingMatchCases => rw [onLine?, onLine?, hbelow (.inr rfl)]
  | optionalWrap => rw [onLine?, onLine?, habove rfl]
  | _ => rfl

/-! ## Lines before a message -/

/-- Lines put in front do not change the line above any but the first of the others. -/
theorem above?_append_right (front rear : List (List Char)) {i : Nat} (h : 1 ≤ i) :
    above? (front ++ rear) (front.length + i) = above? rear i := by
  cases i with
  | zero => omega
  | succ i =>
      show (front ++ rear)[front.length + i]? = rear[i]?
      rw [List.getElem?_append_right (by omega), Nat.add_sub_cancel_left]

/-- Lines before a message only move its lines. The first line is an exception for the rule that
looks at the line above. -/
theorem propose?_append_right (rule : Rule) (range : Range) (front rear : List (List Char))
    {i : Nat} (h : 1 ≤ i ∨ rule ≠ optionalWrap) :
    rule.propose? range (front ++ rear) (front.length + i) = rule.propose? range rear i := by
  rw [propose?_eq_bind, propose?_eq_bind, List.getElem?_append_right (by omega),
    Nat.add_sub_cancel_left]
  apply Option.bind_congr
  intro line _
  apply onLine?_congr
  · intro hrule
    apply above?_append_right
    exact h.resolve_right fun hne => hne hrule
  · intro _
    rw [Nat.add_assoc, List.drop_length_add_append]

/-! ## Lines behind a message -/

/-- Lines behind a message are seen only by the rules that collect from the lines below. -/
theorem propose?_append_left {rule : Rule} (range : Range) {front : List (List Char)} {i : Nat}
    (hi : i < front.length) (hrule : ¬(rule = missingRecordFields ∨ rule = missingMatchCases))
    (rear : List (List Char)) :
    rule.propose? range (front ++ rear) i = rule.propose? range front i := by
  rw [propose?_eq_bind, propose?_eq_bind, List.getElem?_append_left hi, above?_append hi]
  apply Option.bind_congr
  intro line _
  apply onLine?_congr
  · intro _
    rfl
  · intro hcollects
    exact absurd hcollects hrule

/-- A rule that collects from the lines below still answers when there are more of them, under the
same title and with an insertion at the same position. -/
theorem exists_onLine?_append {rule : Rule} {range : Range} {line : List Char}
    {above : Option (List Char)} {below : List (List Char)} {p : Proposal}
    (hrule : rule = missingRecordFields ∨ rule = missingMatchCases)
    (h : rule.onLine? range line above below = some p) (more : List (List Char)) :
    ∃ p' q text text', rule.onLine? range line above (below ++ more) = some p' ∧
      p'.title = p.title ∧ p.edits = [.insertion q text] ∧ p'.edits = [.insertion q text'] := by
  rcases hrule with hfields | hcases
  · rw [hfields] at h ⊢
    obtain ⟨rest, htrigger, hne, hp⟩ := (recordFields_eq_some_iff range line below p).mp h
    have hmore : listedFields rest (below ++ more) ≠ [] := by
      unfold listedFields at hne ⊢
      rw [List.flatMap_append, ← List.append_assoc]
      exact List.append_ne_nil_of_left_ne_nil hne _
    rw [hp]
    exact ⟨_, _, _, _, (recordFields_eq_some_iff range line (below ++ more) _).mpr
      ⟨rest, htrigger, hmore, rfl⟩, rfl, rfl, rfl⟩
  · rw [hcases] at h ⊢
    obtain ⟨rest, htrigger, hne, hp⟩ := (matchCases_eq_some_iff range line below p).mp h
    have hmore : patterns (below ++ more) ≠ [] := by
      rw [patterns_eq_flatMap] at hne ⊢
      rw [List.flatMap_append]
      exact List.append_ne_nil_of_left_ne_nil hne _
    rw [hp]
    exact ⟨_, _, _, _, (matchCases_eq_some_iff range line (below ++ more) _).mpr
      ⟨rest, htrigger, hmore, rfl⟩, rfl, rfl, rfl⟩

/-- Where fields or cases are filled in, lines put behind may lengthen the text but change neither
the title nor the place. -/
theorem exists_propose?_append {rule : Rule} {range : Range} {front : List (List Char)} {i : Nat}
    {p : Proposal} (hrule : rule = missingRecordFields ∨ rule = missingMatchCases)
    (h : rule.propose? range front i = some p) (rear : List (List Char)) :
    ∃ p' q text text', rule.propose? range (front ++ rear) i = some p' ∧
      p'.title = p.title ∧ p.edits = [.insertion q text] ∧ p'.edits = [.insertion q text'] := by
  obtain ⟨line, hline, hp⟩ := (propose?_eq_some_iff rule range front i p).mp h
  obtain ⟨hi, -⟩ := List.getElem?_eq_some_iff.mp hline
  obtain ⟨p', q, text, text', hp', hedits⟩ := exists_onLine?_append hrule hp rear
  refine ⟨p', q, text, text', ?_, hedits⟩
  rw [propose?_eq_some_iff]
  refine ⟨line, ?_, ?_⟩
  · rw [List.getElem?_append_left hi, hline]
  · rw [above?_append hi, List.drop_append_of_le_length hi]
    exact hp'

/-- The diagnostic is handed on and has no part in an answer otherwise. -/
theorem fix?_diagnostic (rule : Rule) (site : Site) (i : Nat) (d : Diagnostic) :
    rule.fix? { site with diagnostic := d } i =
      (rule.fix? site i).map fun action => { action with diagnostics := [d] } := by
  unfold fix?
  rw [Option.map_map]
  rfl

/-! ## The law -/

/-- **What an answer may depend on.** Lines before a message move its lines and change no answer,
except that of the rule for optional values on the first line. Lines behind a message change no
answer of the rules that do not look below, and the other two rules keep answering, under the same
title and with an insertion at the same position. Another diagnostic is handed on in the action and
changes nothing else of it, whatever message and range it has. -/
theorem fix?_in_surroundings (rule : Rule) (site : Site) (front rear : List (List Char)) :
    (∀ i, 1 ≤ i ∨ rule ≠ optionalWrap →
      rule.fix? { site with lines := front ++ rear } (front.length + i) =
        rule.fix? { site with lines := rear } i) ∧
    (rule ≠ missingRecordFields → rule ≠ missingMatchCases → ∀ i, i < front.length →
      rule.fix? { site with lines := front ++ rear } i =
        rule.fix? { site with lines := front } i) ∧
    (rule = missingRecordFields ∨ rule = missingMatchCases → ∀ i action,
      rule.fix? { site with lines := front } i = some action →
        ∃ action' q text text',
          rule.fix? { site with lines := front ++ rear } i = some action' ∧
          action'.title = action.title ∧
          action.changes = [(site.uri, [.insertion q text])] ∧
          action'.changes = [(site.uri, [.insertion q text'])]) ∧
    ∀ i (d : Diagnostic), rule.fix? { site with diagnostic := d } i =
      (rule.fix? site i).map fun action => { action with diagnostics := [d] } := by
  refine ⟨?_, ?_, ?_, fix?_diagnostic rule site⟩
  · intro i hi
    unfold fix?
    rw [propose?_append_right rule site.range front rear hi]
  · intro hfields hcases i hi
    unfold fix?
    rw [propose?_append_left site.range hi (not_or.mpr ⟨hfields, hcases⟩)]
  · intro hrule i action hanswer
    obtain ⟨p, hp, haction⟩ := (fix?_eq_some_iff rule _ i action).mp hanswer
    obtain ⟨p', q, text, text', hp', htitle, hedits, hedits'⟩ :=
      exists_propose?_append hrule hp rear
    refine ⟨p'.toAction site.uri site.diagnostic, q, text, text', ?_, ?_, ?_, ?_⟩
    · exact (fix?_eq_some_iff rule _ i _).mpr ⟨p', hp', rfl⟩
    · rw [haction]
      exact htitle
    · rw [haction, ← hedits]
      rfl
    · rw [← hedits']
      rfl

/-- Two messages put together. The type that ends the first makes an answer on the first line of the
second, where the second alone has none, and the lines of the second are read as names by the
first. -/
theorem fix?_in_surroundings_joined :
    ∃ (site : Site) (front rear : List (List Char)) (fields fields' hint : Action) (q : Position)
      (text text' : String),
      front = ["Some record fields are undefined: a".toList, "This has type: int".toList] ∧
      rear = ["Somewhere wanted: option<int>".toList, "Hint: Did you mean x".toList] ∧
      site.lines = front ++ rear ∧
      identifierSuggestion.fix? { site with lines := rear } 1 = some hint ∧
      identifierSuggestion.fix? site 3 = some hint ∧
      missingRecordFields.fix? { site with lines := front } 0 = some fields ∧
      missingRecordFields.fix? site 0 = some fields' ∧ fields'.title = fields.title ∧
      fields.changes = [(site.uri, [.insertion q text])] ∧
      fields'.changes = [(site.uri, [.insertion q text'])] ∧
      optionalWrap.fix? { site with lines := rear } 0 = none ∧
      (optionalWrap.fix? site 2).isSome = true := by
  let front := ["Some record fields are undefined: a".toList, "This has type: int".toList]
  let rear := ["Somewhere wanted: option<int>".toList, "Hint: Did you mean x".toList]
  let site : Site := .bare (front ++ rear) ⟨⟨0, 0⟩, ⟨0, 3⟩⟩
  obtain ⟨hmoved, -⟩ := fix?_in_surroundings identifierSuggestion site front rear
  obtain ⟨-, -, hkept, -⟩ := fix?_in_surroundings missingRecordFields site front rear
  obtain ⟨hint, hhint⟩ :
      ∃ hint, identifierSuggestion.fix? { site with lines := rear } 1 = some hint := ⟨_, rfl⟩
  obtain ⟨fields, hfields⟩ :
      ∃ fields, missingRecordFields.fix? { site with lines := front } 0 = some fields := ⟨_, rfl⟩
  obtain ⟨fields', q, text, text', hfields', htitle, hchanges, hchanges'⟩ :=
    hkept (.inl rfl) 0 fields hfields
  exact ⟨site, front, rear, fields, fields', hint, q, text, text', rfl, rfl, rfl, hhint,
    (hmoved 1 (.inl (Nat.le_refl 1))).trans hhint, hfields, hfields', htitle, hchanges, hchanges',
    rfl, rfl⟩

end QuickFix.Rule
