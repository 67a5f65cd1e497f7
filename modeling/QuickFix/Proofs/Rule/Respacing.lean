import QuickFix.Proofs.Rule.Conversion
import QuickFix.Proofs.Rule.Suggestion

/-!
# Rules do not see blanks at the ends of lines

A rule gives the same answer on lines and on the trimmed lines (`propose?_map_trim`). Five rules
trim what they read before they look at it or cut it into words; the two that search in the line as
it stands have modules of their own. The law for lines with other blanks at their ends follows,
since such lines have the same trimmed lines.
-/

set_option autoImplicit false

namespace QuickFix.Rule

/-- The fields to fill in do not depend on blanks around the lines. -/
theorem recordFields_trim (range : Range) (line : List Char) (below : List (List Char)) :
    recordFields range (Text.trim line) (below.map Text.trim) = recordFields range line below := by
  have hfields : ∀ rest, listedFields rest (below.map Text.trim) = listedFields rest below := by
    intro rest
    unfold listedFields
    rw [List.flatMap_map]
    simp only [Text.words_trim]
  unfold recordFields
  simp only [triggered?_trim, hfields]

/-- The values on a line do not depend on blanks around it. -/
theorem alternatives_trim (line : List Char) :
    alternatives (Text.trim line) = alternatives line := by
  unfold alternatives
  rw [Text.trim_trim]

/-- The cases to fill in do not depend on blanks around the lines. -/
theorem matchCases_trim (range : Range) (line : List Char) (below : List (List Char)) :
    matchCases range (Text.trim line) (below.map Text.trim) = matchCases range line below := by
  have hpatterns : patterns (below.map Text.trim) = patterns below := by
    unfold patterns
    rw [List.flatMap_map]
    simp only [alternatives_trim]
  unfold matchCases
  rw [triggered?_trim, hpatterns]

/-- Wrapping in an option does not depend on blanks around the lines. -/
theorem someWrap_trim (range : Range) (line : List Char) (above : Option (List Char)) :
    someWrap range (Text.trim line) (above.map Text.trim) = someWrap range line above := by
  have hwanted : wantedType? (Text.trim line) = wantedType? line := by
    unfold wantedType?
    rw [triggered?_trim]
  have hactual : (above.map Text.trim).bind actualType? = above.bind actualType? := by
    cases above with
    | none => rfl
    | some line =>
        show actualType? (Text.trim line) = actualType? line
        unfold actualType?
        rw [triggered?_trim]
  unfold someWrap
  rw [hwanted, hactual]

/-- The line above a trimmed one is the trimmed line above it. -/
theorem above?_map_trim (lines : List (List Char)) (i : Nat) :
    above? (lines.map Text.trim) i = (above? lines i).map Text.trim := by
  cases i with
  | zero => rfl
  | succ i => exact List.getElem?_map

/-- No rule depends on blanks around the lines. -/
theorem onLine?_trim (rule : Rule) (range : Range) (line : List Char)
    (above : Option (List Char)) (below : List (List Char)) :
    rule.onLine? range (Text.trim line) (above.map Text.trim) (below.map Text.trim) =
      rule.onLine? range line above below := by
  cases rule with
  | identifierSuggestion => exact suggestion_trim range line
  | missingRecordFields => exact recordFields_trim range line below
  | typeConversion => exact conversion_trim range line
  | topLevelUnitWrap => rw [onLine?, onLine?, unitWrap, unitWrap, triggered?_trim]
  | uncurriedDotInsert => rw [onLine?, onLine?, uncurriedDot, uncurriedDot, triggered?_trim]
  | missingMatchCases => exact matchCases_trim range line below
  | optionalWrap => exact someWrap_trim range line above

/-- A rule proposes the same on lines and on the trimmed lines. -/
theorem propose?_map_trim (rule : Rule) (range : Range) (lines : List (List Char)) (i : Nat) :
    rule.propose? range (lines.map Text.trim) i = rule.propose? range lines i := by
  rw [propose?_eq_bind, propose?_eq_bind, List.getElem?_map, above?_map_trim, ← List.map_drop,
    Option.bind_map]
  exact Option.bind_congr fun line _ => onLine?_trim rule range line _ _

/-- A rule does not tell sites apart whose lines have the same trimmed lines. -/
theorem fix?_of_map_trim_eq (rule : Rule) (site : Site) (i : Nat) {lines : List (List Char)}
    (h : lines.map Text.trim = site.lines.map Text.trim) :
    rule.fix? { site with lines := lines } i = rule.fix? site i := by
  have hpropose : rule.propose? site.range lines i = rule.propose? site.range site.lines i := by
    rw [← propose?_map_trim rule site.range lines, h, propose?_map_trim]
  unfold fix?
  rw [hpropose]

/-- **Blanks at the ends of lines never matter.** A rule has the same answer on a site, be it none
or an action, whatever blanks are put to the ends of any of its lines or taken away from there. In
particular it has the answer it has on the trimmed lines. -/
theorem fix?_respaced (rule : Rule) (site : Site) (i : Nat) :
    (∀ lines, List.Forall₂ Text.Respaced site.lines lines →
      rule.fix? { site with lines := lines } i = rule.fix? site i) ∧
    rule.fix? { site with lines := site.lines.map Text.trim } i = rule.fix? site i := by
  constructor
  · intro lines hlines
    exact fix?_of_map_trim_eq rule site i (Text.map_trim_eq_of_respaced hlines).symm
  · apply fix?_of_map_trim_eq
    rw [List.map_map]
    exact List.map_congr_left fun line _ => Text.trim_trim line

/-- A hint between blanks of several kinds, with the space that ends it and without. -/
theorem fix?_respaced_hint :
    ∃ site : Site, ∃ lines,
      site.lines = ["Hint: Did you mean foo".toList, "Hint: Did you mean".toList] ∧
      lines = ["\t Hint: Did you mean foo\u00a0".toList, "Hint: Did you mean \u3000".toList] ∧
      List.Forall₂ Text.Respaced site.lines lines ∧
      (∃ action, identifierSuggestion.fix? site 0 = some action ∧
        identifierSuggestion.fix? { site with lines := lines } 0 = some action) ∧
      identifierSuggestion.fix? { site with lines := lines } 1 = none := by
  let site : Site :=
    .bare ["Hint: Did you mean foo".toList, "Hint: Did you mean".toList] ⟨⟨0, 0⟩, ⟨0, 3⟩⟩
  let lines := ["\t Hint: Did you mean foo\u00a0".toList, "Hint: Did you mean \u3000".toList]
  have hlines : List.Forall₂ Text.Respaced site.lines lines :=
    .cons ((Text.respaced_iff _ _).mpr (by decide))
      (.cons ((Text.respaced_iff _ _).mpr (by decide)) .nil)
  obtain ⟨action, haction⟩ : ∃ action, identifierSuggestion.fix? site 0 = some action := ⟨_, rfl⟩
  refine ⟨site, lines, rfl, rfl, hlines, ⟨action, haction, ?_⟩, ?_⟩
  · rw [(fix?_respaced identifierSuggestion site 0).1 lines hlines, haction]
  · rw [(fix?_respaced identifierSuggestion site 1).1 lines hlines]
    rfl

end QuickFix.Rule
