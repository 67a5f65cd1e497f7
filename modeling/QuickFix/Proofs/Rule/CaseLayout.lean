import QuickFix.Proofs.Rule.MatchCases

/-!
# Values between bars and values on lines of their own

The checker shows the values that a match misses in two ways: one below the other, or all on one
line, with bars between them and parentheses around them. The rule reads the two ways by different
branches. `alternatives_barred` says that the line with bars is cut into the values it was made of,
whatever they hold: nothing at its ends is blank, and the two parentheses that are taken off are
the enclosing ones. A value on a line of its own is trimmed first, which `pattern?` does not notice.

So one way of showing values can take the place of the other among any lines of a message, and the
rule answers the same (`fix?_barred_eq_fix?_separate`).
-/

set_option autoImplicit false

namespace QuickFix.Rule

/-- The line that shows values between bars, with parentheses around them all. -/
def barred (values : List (List Char)) : List Char :=
  '(' :: ['|'].intercalate values ++ [')']

/-- A line that shows values between parentheses is trimmed. -/
theorem trim_barred (values : List (List Char)) : Text.trim (barred values) = barred values := by
  apply (Text.trimmed_iff _).mp
  constructor
  · intro c hc
    obtain rfl : '(' = c := Option.some.inj hc
    decide
  · intro c hc
    unfold barred at hc
    rw [List.getLast?_concat] at hc
    obtain rfl : ')' = c := Option.some.inj hc
    decide

/-- A line that shows two values or more has a bar. -/
theorem bar_mem_barred {values : List (List Char)} (h : 2 ≤ values.length) :
    '|' ∈ barred values := by
  match values, h with
  | first :: second :: more, _ =>
      unfold barred
      rw [List.intercalate_cons_cons]
      simp

/-- The values of a line with bars are those it was made of. -/
theorem alternatives_barred {values : List (List Char)} (hlength : 2 ≤ values.length)
    (hbar : ∀ value ∈ values, '|' ∉ value) : alternatives (barred values) = values := by
  have hopened : dropOpening '(' (barred values) = ['|'].intercalate values ++ [')'] := by
    simp [dropOpening, barred, Text.after?]
  have hclosed : dropClosing ')' (['|'].intercalate values ++ [')']) =
      ['|'].intercalate values := by
    unfold dropClosing
    rw [(Text.before?_eq_some_iff _ _ _).mpr rfl]
    rfl
  have hne : values ≠ [] := by
    intro hnil
    rw [hnil] at hlength
    simp at hlength
  have hmem : '|' ∈ Text.trim (barred values) := by
    rw [trim_barred]
    exact bar_mem_barred hlength
  unfold alternatives
  dsimp only
  rw [if_pos (List.contains_iff_mem.mpr hmem), trim_barred, hopened, hclosed,
    Text.pieces_eq_splitOnP]
  exact List.splitOn_intercalate '|' hbar hne

/-- The pattern for a value does not depend on the blanks around it. -/
theorem pattern?_trim (value : List Char) : pattern? (Text.trim value) = pattern? value := by
  unfold pattern?
  rw [Text.trim_trim]

/-- A line without bars shows one value, and blanks at its ends do not count. -/
theorem lineCases_of_bar_not_mem {line : List Char} (h : '|' ∉ line) :
    lineCases line = (pattern? line).toList := by
  have hone : alternatives line = [Text.trim line] := by
    unfold alternatives
    dsimp only
    rw [if_neg]
    rw [List.contains_iff_mem]
    intro hbar
    exact h (Text.mem_of_mem_trim hbar)
  unfold lineCases
  rw [hone, List.filterMap_cons, pattern?_trim]
  cases pattern? line with
  | none => rfl
  | some case => rfl

/-- Values without bars, each on its own line, ask for their own patterns. -/
theorem flatMap_lineCases_of_bar_not_mem {values : List (List Char)}
    (h : ∀ value ∈ values, '|' ∉ value) :
    values.flatMap lineCases = values.filterMap pattern? := by
  induction values with
  | nil => rfl
  | cons value values ih =>
      rw [List.flatMap_cons, lineCases_of_bar_not_mem (h value List.mem_cons_self),
        ih fun v hv => h v (List.mem_cons_of_mem value hv), List.filterMap_cons]
      cases pattern? value with
      | none => rfl
      | some case => rfl

/-- The rule reads nothing from the lines below a trigger but their patterns. -/
theorem matchCases_congr (range : Range) (line : List Char) {below below' : List (List Char)}
    (h : below.flatMap lineCases = below'.flatMap lineCases) :
    matchCases range line below = matchCases range line below' := by
  unfold matchCases
  rw [patterns_eq_flatMap, patterns_eq_flatMap, h]

/-- Lines that show the same patterns can take each other's place below a trigger. -/
theorem fix?_missingMatchCases_congr (site : Site) {before shown shown' : List (List Char)}
    {i : Nat} (hi : i < before.length) (h : shown.flatMap lineCases = shown'.flatMap lineCases) :
    missingMatchCases.fix? { site with lines := before ++ shown } i =
      missingMatchCases.fix? { site with lines := before ++ shown' } i := by
  have hpropose : missingMatchCases.propose? site.range (before ++ shown) i =
      missingMatchCases.propose? site.range (before ++ shown') i := by
    rw [propose?_eq_bind, propose?_eq_bind, List.getElem?_append_left hi,
      List.getElem?_append_left hi, List.drop_append_of_le_length hi,
      List.drop_append_of_le_length hi]
    apply Option.bind_congr
    intro line _
    apply matchCases_congr
    rw [List.flatMap_append, List.flatMap_append, h]
  unfold fix?
  rw [hpropose]

/-- **The two ways of showing values agree.** Among any lines below a trigger, a line with two or
more values between bars and the same values on lines of their own give the same answer, be it none
or an action. The values that can be written as patterns are read in their order, between those of
the lines around them. -/
theorem fix?_barred_eq_fix?_separate (site : Site) (before after values : List (List Char))
    (i : Nat) (hlength : 2 ≤ values.length) (hbar : ∀ value ∈ values, '|' ∉ value)
    (hi : i < before.length) :
    missingMatchCases.fix? { site with lines := before ++ barred values :: after } i =
      missingMatchCases.fix? { site with lines := before ++ (values ++ after) } i ∧
    ∀ cases, ShowsCases (before ++ barred values :: after) i cases →
      cases = (before.drop (i + 1)).flatMap lineCases ++ values.filterMap pattern? ++
        after.flatMap lineCases := by
  have hline : lineCases (barred values) = values.filterMap pattern? := by
    unfold lineCases
    rw [alternatives_barred hlength hbar]
  constructor
  · apply fix?_missingMatchCases_congr site hi
    rw [List.flatMap_cons, List.flatMap_append, hline, flatMap_lineCases_of_bar_not_mem hbar]
  · intro cases hcases
    obtain ⟨-, -, -, -, hshown⟩ := hcases
    rw [hshown, List.drop_append_of_le_length hi, List.flatMap_append, List.flatMap_cons, hline,
      List.append_assoc]

/-- Values with a comma, with parentheses of their own and with blanks, between other lines. -/
theorem fix?_barred_eq_fix?_separate_mixed :
    ∃ (site : Site) (values : List (List Char)) (action : Action),
      values = ["A ".toList, "(b, c)".toList, " `D f(x)".toList] ∧
      barred values = "(A |(b, c)| `D f(x))".toList ∧
      site.lines = ["You forgot to handle a possible case here, for example:".toList, "Z".toList,
        "A ".toList, "(b, c)".toList, " `D f(x)".toList, "Y".toList] ∧
      missingMatchCases.fix? site 0 = some action ∧
      missingMatchCases.fix? { site with
        lines := ["You forgot to handle a possible case here, for example:".toList, "Z".toList,
          barred values, "Y".toList] } 0 = some action ∧
      ShowsCases ["You forgot to handle a possible case here, for example:".toList, "Z".toList,
        barred values, "Y".toList] 0 ["Z".toList, "A".toList, "#D(f(x))".toList, "Y".toList] := by
  let trigger := "You forgot to handle a possible case here, for example:".toList
  let values := ["A ".toList, "(b, c)".toList, " `D f(x)".toList]
  let site : Site :=
    .bare ([trigger, "Z".toList] ++ (values ++ ["Y".toList])) ⟨⟨0, 0⟩, ⟨2, 1⟩⟩
  obtain ⟨hsame, hread⟩ := fix?_barred_eq_fix?_separate site [trigger, "Z".toList] ["Y".toList]
    values 0 (by decide) (by decide) (by decide)
  have hcases : ShowsCases [trigger, "Z".toList, barred values, "Y".toList] 0
      ["Z".toList, "A".toList, "#D(f(x))".toList, "Y".toList] := by
    refine ⟨trigger, [], rfl, by decide, ?_⟩
    exact ((hread _ ⟨trigger, [], rfl, by decide, rfl⟩).trans (by decide)).symm
  obtain ⟨action, haction⟩ : ∃ action, missingMatchCases.fix? site 0 = some action :=
    ⟨_, (fix?_missingMatchCases_iff site 0 _).mpr ⟨_, ⟨trigger, [], rfl, by decide, rfl⟩,
      by decide, rfl⟩⟩
  exact ⟨site, values, action, rfl, by decide, rfl, haction, hsame.trans haction, hcases⟩

end QuickFix.Rule
