import QuickFix.Proofs.Catalog.History
import QuickFix.Proofs.Catalog.Order
import QuickFix.Proofs.Rule.Edits

/-!
# Fixes stay at their diagnostics

The edits of an action that a rule answers are well formed and lie at the range they were made for.
A survey enters every answer of a rule, since no other rule takes its line
(`Site.mem_entries_of_fix?`), and so the action is offered wherever its edits are.
-/

set_option autoImplicit false

namespace QuickFix

/-- A survey makes an entry of every answer. -/
theorem Site.mem_entries_of_fix? {site : Site} {rule : Rule} {i : Nat} {action : Action}
    (h : rule.fix? site i = some action) : ⟨site.range, action⟩ ∈ site.entries := by
  have hanswer : site.answer? i = some (rule, action) :=
    (site.answerIn?_eq_some_iff Rule.mem_priority i rule action).mpr h
  have hline : i < site.lines.length := by
    by_contra hbeyond
    rw [rule.fix?_eq_none_of_length_le (Nat.le_of_not_lt hbeyond)] at h
    cases h
  unfold Site.entries Site.answers
  refine List.mem_filterMap.mpr ⟨some (rule, action), ?_, rfl⟩
  exact List.mem_map.mpr ⟨i, List.mem_range.mpr hline, hanswer⟩

/-- After a survey the answers are offered at every position of the range. -/
theorem Catalog.mem_actionsAt_survey (c : Catalog) {site : Site} {rule : Rule} {i : Nat}
    {action : Action} (h : rule.fix? site i = some action) {p : Position}
    (hp : site.range.contains p = true) : action ∈ (c.survey site).1.actionsAt site.uri p := by
  unfold Catalog.actionsAt
  rw [c.entries_survey site site.uri, if_pos rfl]
  refine List.mem_map.mpr ⟨⟨site.range, action⟩, ?_, rfl⟩
  refine List.mem_filter.mpr ⟨?_, hp⟩
  exact List.mem_append_right _ (Site.mem_entries_of_fix? h)

/-- **Fixes are well formed and stay at their diagnostics.** An action for a range that is not
reversed changes the site's file only, by one or two edits, one behind the other and without
overlap. All of them are insertions, but for the suggestion, whose one edit replaces the range. No
end of an edit is further off the range than a column. In a range with some extent all edits but the
dot lie in the range, and a survey of the site makes the action one of those offered there. -/
theorem Catalog.edits_at_diagnostic (site : Site) (rule : Rule) (i : Nat) (action : Action)
    (hrange : site.range.start ≤ site.range.stop) (hanswer : rule.fix? site i = some action) :
    ∃ edits, action.changes = [(site.uri, edits)] ∧
      (edits.length = 1 ∨ edits.length = 2) ∧
      (∀ e ∈ edits, e.range.start ≤ e.range.stop) ∧
      edits.Pairwise (fun e f => e.range.stop ≤ f.range.start) ∧
      (rule = .identifierSuggestion → ∃ name, edits = [⟨site.range, name⟩]) ∧
      (rule ≠ .identifierSuggestion → ∀ e ∈ edits, e.range.start = e.range.stop) ∧
      (∀ e ∈ edits, ∀ p, e.EndsAt p →
        p.character.toNat ≤ 4294967295 ∧ site.range.start.left ≤ p ∧ p ≤ site.range.stop.right) ∧
      (site.range.start < site.range.stop → rule ≠ .uncurriedDotInsert →
        ∀ e ∈ edits, ∀ p, e.EndsAt p →
          site.range.start ≤ p ∧ p ≤ site.range.stop ∧
            ∀ c : Catalog, action ∈ (c.survey site).1.actionsAt site.uri p) := by
  obtain ⟨proposal, hproposal, rfl⟩ := (Rule.fix?_eq_some_iff rule site i action).mp hanswer
  have hshape := Rule.shaped_of_propose? hproposal
  refine ⟨proposal.edits, rfl, hshape.length_eq, hshape.start_le_stop hrange,
    hshape.pairwise hrange, hshape.eq_replacement, hshape.start_eq_stop, ?_, ?_⟩
  · intro e he p hp
    have hword := p.character.toNat_lt
    exact ⟨by omega, hshape.near hrange he hp⟩
  · intro hextent hrule e he p hp
    obtain ⟨hstart, hstop⟩ := hshape.inside hextent hrule he hp
    refine ⟨hstart, hstop, ?_⟩
    intro c
    apply c.mem_actionsAt_survey hanswer
    simp [Range.contains, hstart, hstop]

/-- A wrapped value in columns 4 to 7 of a line, offered at both ends. -/
theorem Catalog.edits_at_diagnostic_wrap :
    ∃ (site : Site) (action : Action) (edits : List Edit),
      site.range = ⟨⟨3, 4⟩, ⟨3, 7⟩⟩ ∧ site.range.start ≤ site.range.stop ∧
      site.range.start < site.range.stop ∧
      Rule.topLevelUnitWrap.fix? site 0 = some action ∧
      action.changes = [(site.uri, edits)] ∧
      edits = [.insertion ⟨3, 4⟩ "ignore(", .insertion ⟨3, 7⟩ ")"] ∧
      edits.Pairwise (fun e f => e.range.stop ≤ f.range.start) ∧
      (∀ e ∈ edits, e.range.start = e.range.stop) ∧
      action ∈ (Catalog.empty.survey site).1.actionsAt site.uri ⟨3, 4⟩ ∧
      action ∈ (Catalog.empty.survey site).1.actionsAt site.uri ⟨3, 7⟩ := by
  let site : Site :=
    .bare ["Toplevel expression is expected to have unit type.".toList] ⟨⟨3, 4⟩, ⟨3, 7⟩⟩
  let edits : List Edit := [.insertion ⟨3, 4⟩ "ignore(", .insertion ⟨3, 7⟩ ")"]
  obtain ⟨action, haction, hchanges⟩ : ∃ action, Rule.topLevelUnitWrap.fix? site 0 = some action ∧
      action.changes = [(site.uri, edits)] := ⟨_, rfl, rfl⟩
  have hrange : site.range.start ≤ site.range.stop := by decide
  have hextent : site.range.start < site.range.stop := by decide
  obtain ⟨edits', hchanges', -, -, hpairwise, -, hinsertions, -, hinside⟩ :=
    Catalog.edits_at_diagnostic site Rule.topLevelUnitWrap 0 action hrange haction
  obtain rfl : edits = edits' := by
    have hsame := hchanges.symm.trans hchanges'
    simpa using hsame
  have hends := hinside hextent (by decide)
  exact ⟨site, action, edits, rfl, hrange, hextent, haction, hchanges, rfl, hpairwise,
    hinsertions (by decide), (hends _ List.mem_cons_self _ (.inl rfl)).2.2 Catalog.empty,
    (hends _ (List.mem_cons_of_mem _ List.mem_cons_self) _ (.inl rfl)).2.2 Catalog.empty⟩

end QuickFix
