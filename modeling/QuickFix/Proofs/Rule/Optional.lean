import QuickFix.Proofs.Rule.Basic

/-!
# Values that only lack an option

The rule for optional values reads a type from each of two lines that stand one below the other, and
wraps the value if the types are the same text. `actualType?_eq_some_iff` and
`wantedType?_eq_some_iff` say how the lines have to read. A type may hold closing brackets of its
own, since only the last one of the line belongs to the option that is wanted, and blanks around a
type do not count.

`fix?_optionalWrap_eq_some_iff` puts the two readings together: the rule answers on the lower one of
two such lines, so never on the first line of a message. The main statement is about lines that are
written from two types, whatever these hold and whatever blanks stand around them.
-/

set_option autoImplicit false

namespace QuickFix.Rule

/-- The type that a line says a value has is what follows the words for it, without the blanks
around it. -/
theorem actualType?_eq_some_iff (line type : List Char) :
    actualType? line = some type ↔
      ∃ rest, Text.trim line = "This has type:".toList ++ rest ∧ type = Text.trim rest := by
  unfold actualType?
  simp only [Option.map_eq_some_iff, triggered?_eq_some_iff]
  exact exists_congr fun rest => and_congr_right fun _ => eq_comm

/-- The type that a line wants inside an option stands before the bracket that ends the line. -/
theorem wantedType?_eq_some_iff (line type : List Char) :
    wantedType? line = some type ↔
      ∃ inner, Text.trim line = "Somewhere wanted: option<".toList ++ inner ++ ['>'] ∧
        type = Text.trim inner := by
  unfold wantedType?
  simp only [Option.bind_eq_bind, Option.bind_eq_some_iff, triggered?_eq_some_iff,
    Text.before?_eq_some_iff, Option.some.injEq]
  constructor
  · rintro ⟨rest, hline, inner, hrest, htype⟩
    refine ⟨inner, ?_, htype.symm⟩
    rw [hline, hrest, List.append_assoc]
  · rintro ⟨inner, hline, htype⟩
    refine ⟨inner ++ ['>'], ?_, inner, rfl, htype.symm⟩
    rw [hline, List.append_assoc]

/-- A value is wrapped exactly if there is a line above and both lines name the same type, which has
to be given. -/
theorem someWrap_eq_some_iff (range : Range) (line : List Char) (above : Option (List Char))
    (p : Proposal) :
    someWrap range line above = some p ↔
      ∃ upper type, above = some upper ∧ actualType? upper = some type ∧
        wantedType? line = some type ∧ type ≠ [] ∧
        p = ⟨"Wrap value in Some", range.wrap "Some(" ")"⟩ := by
  unfold someWrap
  simp only [Option.bind_eq_bind, Option.bind_eq_some_iff]
  constructor
  · rintro ⟨wanted, hwanted, actual, ⟨upper, habove, hactual⟩, hp⟩
    split at hp
    · cases hp
    · rename_i hsame
      simp only [Bool.or_eq_true, List.isEmpty_iff, bne_iff_ne, not_or, not_not] at hsame
      obtain ⟨hne, hequal⟩ := hsame
      rw [← hequal] at hactual
      exact ⟨upper, wanted, habove, hactual, hwanted, hne, (Option.some.inj hp).symm⟩
  · rintro ⟨upper, type, habove, hactual, hwanted, hne, hp⟩
    refine ⟨type, hwanted, type, ⟨upper, habove, hactual⟩, ?_⟩
    rw [if_neg (by simp [hne]), hp]

/-- The line above another is the one with the index before. -/
theorem above?_eq_some_iff (lines : List (List Char)) (i : Nat) (upper : List Char) :
    above? lines i = some upper ↔ ∃ j, i = j + 1 ∧ lines[j]? = some upper := by
  cases i with
  | zero => simp [above?]
  | succ j => simp [above?]

/-- The rule answers exactly on a line that wants an option of the type that the line above it
names. -/
theorem fix?_optionalWrap_eq_some_iff (site : Site) (i : Nat) (action : Action) :
    optionalWrap.fix? site i = some action ↔
      ∃ j upper lower type, i = j + 1 ∧ site.lines[j]? = some upper ∧
        site.lines[i]? = some lower ∧ actualType? upper = some type ∧
        wantedType? lower = some type ∧ type ≠ [] ∧
        action = Proposal.toAction ⟨"Wrap value in Some", site.range.wrap "Some(" ")"⟩
          site.uri site.diagnostic := by
  rw [fix?_eq_some_iff_onLine?]
  simp only [onLine?, someWrap_eq_some_iff, above?_eq_some_iff]
  constructor
  · rintro ⟨lower, p, hlower, ⟨upper, type, ⟨j, hj, hupper⟩, hactual, hwanted, hne, hp⟩, haction⟩
    rw [hp] at haction
    exact ⟨j, upper, lower, type, hj, hupper, hlower, hactual, hwanted, hne, haction⟩
  · rintro ⟨j, upper, lower, type, hj, hupper, hlower, hactual, hwanted, hne, haction⟩
    exact ⟨lower, _, hlower, ⟨upper, type, ⟨j, hj, hupper⟩, hactual, hwanted, hne, rfl⟩, haction⟩

/-! ## Lines written from types -/

/-- A line that is written from a type gives it back, up to blanks. -/
theorem actualType?_of_respaced {line rest type : List Char}
    (hline : Text.Respaced ("This has type:".toList ++ rest) line)
    (htype : Text.Respaced type rest) : actualType? line = some (Text.trim type) := by
  have hwords : Text.Trimmed "This has type:".toList := (Text.trimmed_iff _).mpr (by decide)
  rw [Text.respaced_iff] at hline htype
  refine (actualType?_eq_some_iff line _).mpr ⟨Text.trimEnd rest, ?_, ?_⟩
  · rw [← hline]
    exact hwords.trim_append (by decide) rest
  · rw [htype, Text.trim_trimEnd]

/-- The wanted type is read whatever blanks stand around it and around the line. -/
theorem wantedType?_of_respaced {line inner type : List Char}
    (hline : Text.Respaced ("Somewhere wanted: option<".toList ++ inner ++ ['>']) line)
    (htype : Text.Respaced type inner) : wantedType? line = some (Text.trim type) := by
  -- the line starts and ends with what is no blank, so that trimming takes nothing of the type
  have htrimmed : Text.Trimmed ("Somewhere wanted: option<".toList ++ inner ++ ['>']) := by
    constructor
    · intro c hc
      rw [← Option.some.inj hc]
      decide
    · intro c hc
      rw [List.getLast?_concat] at hc
      rw [← Option.some.inj hc]
      decide
  rw [Text.respaced_iff] at hline htype
  refine (wantedType?_eq_some_iff line _).mpr ⟨inner, ?_, htype⟩
  rw [← hline]
  exact (Text.trimmed_iff _).mp htrimmed

/-- **Optional values.** On two lines one below the other, written from two types with any blanks
around the lines and the types, the rule answers at the lower one exactly if the types are the same
text without these blanks and the text is not empty. It then wraps the range. There are no other
answers: wherever the rule answers, there is a line above, and the two lines read this way. -/
theorem fix?_optionalWrap_iff (site : Site) :
    (∀ (before after : List (List Char)) (upper lower rest inner actual wanted : List Char),
      site.lines = before ++ upper :: lower :: after →
      Text.Respaced ("This has type:".toList ++ rest) upper → Text.Respaced actual rest →
      Text.Respaced ("Somewhere wanted: option<".toList ++ inner ++ ['>']) lower →
      Text.Respaced wanted inner →
      ∀ action, optionalWrap.fix? site (before.length + 1) = some action ↔
        Text.trim actual = Text.trim wanted ∧ Text.trim wanted ≠ [] ∧
          action = Proposal.toAction ⟨"Wrap value in Some", site.range.wrap "Some(" ")"⟩
            site.uri site.diagnostic) ∧
    ∀ i action, optionalWrap.fix? site i = some action →
      1 ≤ i ∧ ∃ upper lower actual wanted,
        site.lines[i - 1]? = some upper ∧ site.lines[i]? = some lower ∧
        Text.trim upper = "This has type:".toList ++ actual ∧
        Text.trim lower = "Somewhere wanted: option<".toList ++ wanted ++ ['>'] ∧
        Text.trim actual = Text.trim wanted ∧ Text.trim wanted ≠ [] := by
  constructor
  · intro before after upper lower rest inner actual wanted hlines hupper hactual hlower hwanted
      action
    have hread := actualType?_of_respaced hupper hactual
    have hread' := wantedType?_of_respaced hlower hwanted
    have hat : site.lines[before.length]? = some upper := by simp [hlines]
    have hat' : site.lines[before.length + 1]? = some lower := by simp [hlines]
    rw [fix?_optionalWrap_eq_some_iff]
    constructor
    · rintro ⟨j, upper', lower', type, hj, hj', hlower', htype, htype', hne, haction⟩
      rw [← Nat.succ.inj hj, hat] at hj'
      rw [hat'] at hlower'
      rw [← Option.some.inj hj', hread] at htype
      rw [← Option.some.inj hlower', hread'] at htype'
      rw [Option.some.injEq] at htype htype'
      rw [htype, htype']
      exact ⟨rfl, hne, haction⟩
    · rintro ⟨hsame, hne, haction⟩
      rw [hsame] at hread
      exact ⟨before.length, upper, lower, _, rfl, hat, hat', hread, hread', hne, haction⟩
  · intro i action hanswer
    obtain ⟨j, upper, lower, type, hj, hupper, hlower, htype, htype', hne, -⟩ :=
      (fix?_optionalWrap_eq_some_iff site i action).mp hanswer
    obtain ⟨actual, hread, hactual⟩ := (actualType?_eq_some_iff upper type).mp htype
    obtain ⟨wanted, hread', hwanted⟩ := (wantedType?_eq_some_iff lower type).mp htype'
    have hbefore : i - 1 = j := by omega
    rw [← hbefore] at hupper
    rw [hwanted] at hactual hne
    exact ⟨by omega, upper, lower, actual, wanted, hupper, hlower, hread, hread', hactual.symm, hne⟩

/-- A type that is an option itself, with blanks of several kinds, and an option wanted on the first
line, where nothing stands above it. -/
theorem fix?_optionalWrap_iff_nested :
    ∃ (site : Site) (action : Action),
      site.range = ⟨⟨0, 4⟩, ⟨0, 7⟩⟩ ∧
      site.lines = ["Somewhere wanted: option<int>".toList,
        " This has type:\u00a0option<int>".toList,
        "Somewhere wanted: option< option<int>>\t".toList] ∧
      optionalWrap.fix? site 2 = some action ∧
      action.changes =
        [(site.uri, [.insertion ⟨0, 4⟩ "Some(", .insertion ⟨0, 7⟩ ")"])] ∧
      optionalWrap.fix? site 0 = none := by
  let site : Site :=
    .bare ["Somewhere wanted: option<int>".toList,
        " This has type:\u00a0option<int>".toList,
        "Somewhere wanted: option< option<int>>\t".toList]
      ⟨⟨0, 4⟩, ⟨0, 7⟩⟩
  obtain ⟨hwritten, hread⟩ := fix?_optionalWrap_iff site
  have hanswer := hwritten ["Somewhere wanted: option<int>".toList] []
    " This has type:\u00a0option<int>".toList "Somewhere wanted: option< option<int>>\t".toList
    "\u00a0option<int>".toList " option<int>".toList "option<int>".toList "option<int>".toList rfl
    ((Text.respaced_iff _ _).mpr (by decide)) ((Text.respaced_iff _ _).mpr (by decide))
    ((Text.respaced_iff _ _).mpr (by decide)) ((Text.respaced_iff _ _).mpr (by decide))
  refine ⟨site, _, rfl, rfl, (hanswer _).mpr ⟨rfl, by decide, rfl⟩, rfl, ?_⟩
  cases hfix : optionalWrap.fix? site 0 with
  | none => rfl
  | some action => exact absurd (hread 0 action hfix).1 (by decide)

end QuickFix.Rule
