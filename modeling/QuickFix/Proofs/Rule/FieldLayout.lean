import QuickFix.Proofs.Rule.RecordFields

/-!
# Names that are wrapped over lines

The checker lists the names of missing fields behind the trigger and breaks the list over as many
lines as it likes. `SetOut` says which messages set out given names: any number of them stands on
the rest of the trigger's line and on each line below it, blanks stand between names on one line and
may stand around them, and lines may be blank. Every list of names can be set out, if no name is
empty or holds a blank (`exists_setOut_iff`).

A message that sets out names lists just them (`SetOut.listsFields`): no name is lost, cut or joined
to the next one. So the rule's answer depends on the names and not on how they are set out.
-/

set_option autoImplicit false

namespace QuickFix.Rule

/-- Lines set out names from the line with index `i` on: the line starts with the trigger, blanks
aside, and the names stand behind it and on the lines below. -/
def SetOut (lines : List (List Char)) (i : Nat) (names : List (List Char)) : Prop :=
  ∃ before below margin rest, before.length = i ∧
    lines = before ++ (margin ++ "Some record fields are undefined:".toList ++ rest) :: below ∧
    (∀ c ∈ margin, Text.isBlank c = true) ∧ Concatenation Text.Worded (rest :: below) names

/-- Lines that set out names list these names. -/
theorem SetOut.listsFields {lines : List (List Char)} {i : Nat} {names : List (List Char)}
    (h : SetOut lines i names) : ListsFields lines i names := by
  obtain ⟨before, below, margin, rest, hlength, hlines, hmargin, hnames⟩ := h
  have htrigger : Text.Trimmed "Some record fields are undefined:".toList :=
    (Text.trimmed_iff _).mpr (by decide)
  have hbelow : lines.drop (i + 1) = below := by
    rw [hlines, ← hlength, List.drop_length_add_append]
    rfl
  have hline : lines[i]? =
      some (margin ++ "Some record fields are undefined:".toList ++ rest) := by
    rw [hlines, ← hlength, List.getElem?_append_right (Nat.le_refl _), Nat.sub_self]
    rfl
  refine ⟨_, Text.trimEnd rest, hline, ?_, ?_⟩
  · rw [List.append_assoc, Text.trim_blanks_append hmargin]
    exact htrigger.trim_append (by decide) rest
  · -- the blanks that trimming takes off behind the last name belong to no name
    rw [concatenation_worded_iff] at hnames ⊢
    rw [hnames, hbelow, listedFields, listedFields, Text.words_trimEnd]

/-- Names can be set out exactly if each of them holds something and none of them holds a blank. -/
theorem exists_setOut_iff (names : List (List Char)) :
    (∃ lines i, SetOut lines i names) ↔
      ∀ name ∈ names, name ≠ [] ∧ ∀ c ∈ name, Text.isBlank c = false := by
  constructor
  · rintro ⟨lines, i, h⟩ name hname
    exact h.listsFields.of_mem hname
  · intro h
    -- each name on a line of its own
    refine ⟨"Some record fields are undefined:".toList :: names, 0, [], names, [], [], rfl, ?_, ?_,
      ?_⟩
    · simp
    · simp
    · have hwords : ∀ name ∈ names, Text.words name = [name] := by
        intro name hname
        exact Text.words_word name (h name hname).1 (h name hname).2
      rw [concatenation_worded_iff, listedFields, List.flatMap_congr hwords]
      simp [Text.words_blanks]

/-- The rule answers with the placeholders of the listed names, if there are any. -/
theorem fix?_of_listsFields (site : Site) {i : Nat} {names : List (List Char)}
    (h : ListsFields site.lines i names) :
    (names = [] → missingRecordFields.fix? site i = none) ∧
    (names ≠ [] → missingRecordFields.fix? site i =
      some (Proposal.toAction ⟨"Add missing record fields",
        [site.range.insertBeforeLast (String.ofList (fieldsText site.range names))]⟩
          site.uri site.diagnostic)) := by
  constructor
  · intro hnil
    rw [Option.eq_none_iff_forall_ne_some]
    intro action hanswer
    obtain ⟨fields, hfields, hne, -⟩ := (fix?_missingRecordFields_iff site i action).mp hanswer
    rw [h.unique hfields] at hnil
    exact hne hnil
  · intro hne
    exact (fix?_missingRecordFields_iff site i _).mpr ⟨names, h, hne, rfl⟩

/-- **How names are wrapped does not matter.** The names that can be set out are those that hold
something and no blank. For any two ways of setting out the same names, over any lines, between any
blanks and after any lines, the rule answers the same: nothing if there are no names, and otherwise
the insertion of their placeholders in their order. -/
theorem fix?_eq_of_setOut (site : Site) (names : List (List Char)) :
    ((∃ lines i, SetOut lines i names) ↔
      ∀ name ∈ names, name ≠ [] ∧ ∀ c ∈ name, Text.isBlank c = false) ∧
    ∀ lines lines' i j, SetOut lines i names → SetOut lines' j names →
      missingRecordFields.fix? { site with lines := lines } i =
        missingRecordFields.fix? { site with lines := lines' } j ∧
      (names = [] → missingRecordFields.fix? { site with lines := lines } i = none) ∧
      (names ≠ [] → missingRecordFields.fix? { site with lines := lines } i =
        some (Proposal.toAction ⟨"Add missing record fields",
          [site.range.insertBeforeLast (String.ofList (fieldsText site.range names))]⟩
            site.uri site.diagnostic)) := by
  refine ⟨exists_setOut_iff names, ?_⟩
  intro lines lines' i j hlines hlines'
  obtain ⟨hnone, hsome⟩ := fix?_of_listsFields { site with lines := lines } hlines.listsFields
  obtain ⟨hnone', hsome'⟩ := fix?_of_listsFields { site with lines := lines' } hlines'.listsFields
  refine ⟨?_, hnone, hsome⟩
  by_cases hnil : names = []
  · exact (hnone hnil).trans (hnone' hnil).symm
  · exact (hsome hnil).trans (hsome' hnil).symm

/-- Three names on the trigger's line, and over several lines between blanks of several kinds. -/
theorem fix?_eq_of_setOut_wrapped :
    ∃ (site : Site) (lines : List (List Char)) (action : Action),
      site.lines = ["Some record fields are undefined: a b' c".toList] ∧
      lines = ["x".toList, "\tSome record fields are undefined:".toList, "".toList,
        " a\u00a0\tb'".toList, "  ".toList, "c".toList] ∧
      SetOut site.lines 0 ["a".toList, "b'".toList, "c".toList] ∧
      SetOut lines 1 ["a".toList, "b'".toList, "c".toList] ∧
      missingRecordFields.fix? site 0 = some action ∧
      missingRecordFields.fix? { site with lines := lines } 1 = some action := by
  let site : Site := .bare ["Some record fields are undefined: a b' c".toList] ⟨⟨0, 0⟩, ⟨2, 1⟩⟩
  let lines := ["x".toList, "\tSome record fields are undefined:".toList, "".toList,
    " a\u00a0\tb'".toList, "  ".toList, "c".toList]
  have hone : SetOut site.lines 0 ["a".toList, "b'".toList, "c".toList] :=
    ⟨[], [], [], " a b' c".toList, rfl, by decide, by simp,
      (concatenation_worded_iff _ _ _).mpr (by decide)⟩
  have hmany : SetOut lines 1 ["a".toList, "b'".toList, "c".toList] :=
    ⟨["x".toList], ["".toList, " a\u00a0\tb'".toList, "  ".toList, "c".toList], "\t".toList, [],
      rfl, by decide, by simp [Text.isBlank], (concatenation_worded_iff _ _ _).mpr (by decide)⟩
  obtain ⟨-, hlayouts⟩ := fix?_eq_of_setOut site ["a".toList, "b'".toList, "c".toList]
  obtain ⟨hsame, -, hanswer⟩ := hlayouts site.lines lines 0 1 hone hmany
  have haction := hanswer (by simp)
  exact ⟨site, lines, _, rfl, rfl, hone, hmany, haction, hsame.symm.trans haction⟩

end QuickFix.Rule
