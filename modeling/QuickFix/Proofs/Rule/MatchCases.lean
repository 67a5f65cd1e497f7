import QuickFix.Proofs.Rule.Basic

/-!
# Arms for missing cases

What the rule reads from a message and what its fix does to a file. `ShowsCases` says which patterns
a message asks for, and `fix?_missingMatchCases_iff` that the rule answers exactly if there are
some. The layout statement is about the file: each pattern gets an arm in the column of the closing
delimiter, which then stands in its column again.

The patterns of a message without line feeds have none either, since a pattern is made of characters
of its line and of the marks that `pattern?` adds (`mem_of_mem_lineCases`).
-/

set_option autoImplicit false

namespace QuickFix.Rule

open Text (units lineFeed space)

/-- The patterns for the values on one line. -/
def lineCases (line : List Char) : List (List Char) :=
  (alternatives line).filterMap pattern?

/-- The patterns that lines ask for from the trigger on: those of each line below it. -/
def ShowsCases (lines : List (List Char)) (i : Nat) (cases : List (List Char)) : Prop :=
  ∃ line rest, lines[i]? = some line ∧
    Text.trim line = "You forgot to handle a possible case here, for example:".toList ++ rest ∧
    cases = (lines.drop (i + 1)).flatMap lineCases

/-- The patterns for lines are those of each line. -/
theorem patterns_eq_flatMap (below : List (List Char)) :
    patterns below = below.flatMap lineCases :=
  List.filterMap_flatMap

/-- Arms are proposed exactly if the line has the trigger and a pattern is found below it. -/
theorem matchCases_eq_some_iff (range : Range) (line : List Char) (below : List (List Char))
    (p : Proposal) :
    matchCases range line below = some p ↔
      ∃ rest,
        Text.trim line =
          "You forgot to handle a possible case here, for example:".toList ++ rest ∧
        patterns below ≠ [] ∧
        p = ⟨"Insert missing cases",
          [range.insertBeforeLast (String.ofList (armsText range (patterns below)))]⟩ :=
  collecting_eq_some_iff "You forgot to handle a possible case here, for example:" line
    (fun _ => patterns below)
    (fun found => ⟨"Insert missing cases",
      [range.insertBeforeLast (String.ofList (armsText range found))]⟩) p

/-- The rule answers exactly on a line below which patterns are asked for, at least one, and then
inserts their arms before the last character of the range. -/
theorem fix?_missingMatchCases_iff (site : Site) (i : Nat) (action : Action) :
    missingMatchCases.fix? site i = some action ↔
      ∃ cases, ShowsCases site.lines i cases ∧ cases ≠ [] ∧
        action = Proposal.toAction ⟨"Insert missing cases",
          [site.range.insertBeforeLast (String.ofList (armsText site.range cases))]⟩
            site.uri site.diagnostic := by
  rw [fix?_eq_some_iff_onLine?]
  constructor
  · rintro ⟨line, p, hline, hp, rfl⟩
    obtain ⟨rest, htrigger, hne, rfl⟩ := (matchCases_eq_some_iff _ _ _ _).mp hp
    exact ⟨_, ⟨line, rest, hline, htrigger, patterns_eq_flatMap _⟩, hne, rfl⟩
  · rintro ⟨cases, ⟨line, rest, hline, htrigger, hcases⟩, hne, rfl⟩
    rw [← patterns_eq_flatMap] at hcases
    subst hcases
    exact ⟨line, _, hline, (matchCases_eq_some_iff _ _ _ _).mpr ⟨rest, htrigger, hne, rfl⟩, rfl⟩

/-! ## The characters of a pattern -/

/-- A text without a character at its start is the rest of a text that starts with it, or the text
itself. -/
theorem dropOpening_cases (c : Char) (s : List Char) :
    s = c :: dropOpening c s ∨ (s.head? ≠ some c ∧ dropOpening c s = s) := by
  unfold dropOpening
  cases s with
  | nil => simp [Text.after?]
  | cons x s =>
      by_cases h : x = c
      · simp [Text.after?, h]
      · simp [Text.after?, h]

/-- A text without a character at its end is the front of a text that ends with it, or the text
itself. -/
theorem dropClosing_cases (c : Char) (s : List Char) :
    s = dropClosing c s ++ [c] ∨ (s.getLast? ≠ some c ∧ dropClosing c s = s) := by
  unfold dropClosing
  cases h : Text.before? [c] s with
  | none =>
      right
      refine ⟨?_, rfl⟩
      intro hlast
      obtain ⟨front, rfl⟩ := List.getLast?_eq_some_iff.mp hlast
      rw [(Text.before?_eq_some_iff [c] _ front).mpr rfl] at h
      cases h
  | some front =>
      left
      exact (Text.before?_eq_some_iff [c] s front).mp h

/-- The values on a line are made of its characters. -/
theorem mem_of_mem_alternatives {line value : List Char} (h : value ∈ alternatives line) {c : Char}
    (hc : c ∈ value) : c ∈ line := by
  apply Text.mem_of_mem_trim
  unfold alternatives at h
  dsimp only at h
  split at h
  · have hinner := (Text.of_mem_of_mem_pieces h hc).1
    have hopened : c ∈ dropOpening '(' (Text.trim line) := by
      rcases dropClosing_cases ')' (dropOpening '(' (Text.trim line)) with hdrop | ⟨-, hdrop⟩
      · rw [hdrop]
        exact List.mem_append_left _ hinner
      · rwa [hdrop] at hinner
    rcases dropOpening_cases '(' (Text.trim line) with hdrop | ⟨-, hdrop⟩
    · rw [hdrop]
      exact List.mem_cons_of_mem _ hopened
    · rwa [hdrop] at hopened
  · rw [List.mem_singleton] at h
    rwa [← h]

/-- When a value is written as a pattern, and how: it is not empty, no tuple and no enumeration, and
a payload behind a space is put in parentheses unless it starts with one. -/
theorem pattern?_eq_some_iff (value case : List Char) :
    pattern? value = some case ↔
      Text.trim value ≠ [] ∧ (Text.trim value).head? ≠ some '(' ∧ ',' ∉ Text.trim value ∧
        ((' ' ∉ marked (Text.trim value) ∧ case = marked (Text.trim value)) ∨
          ∃ name payload, marked (Text.trim value) = name ++ ' ' :: payload ∧ ' ' ∉ name ∧
            (Text.trimStart payload).head? ≠ some '(' ∧
            case = name ++ '(' :: Text.trim payload ++ [')']) := by
  unfold pattern?
  dsimp only
  generalize Text.trim value = v
  by_cases hgiven : v.isEmpty || v.head? == some '(' || v.contains ','
  · rw [if_pos hgiven]
    simp only [Bool.or_eq_true, List.isEmpty_iff, beq_iff_eq, List.contains_iff_mem] at hgiven
    simp only [reduceCtorEq, false_iff]
    rintro ⟨hne, hhead, hcomma, -⟩
    rcases hgiven with (hnil | hopen) | hmem
    · exact hne hnil
    · exact hhead hopen
    · exact hcomma hmem
  · rw [if_neg hgiven]
    simp only [Bool.or_eq_true, List.isEmpty_iff, beq_iff_eq, List.contains_iff_mem, not_or]
      at hgiven
    obtain ⟨⟨hne, hhead⟩, hcomma⟩ := hgiven
    cases hcut : Text.cut? ' ' (marked v) with
    | none =>
        have hspace := (Text.cut?_eq_none_iff ' ' (marked v)).mp hcut
        simp only [Option.some.injEq]
        constructor
        · intro hcase
          exact ⟨hne, hhead, hcomma, .inl ⟨hspace, hcase.symm⟩⟩
        · rintro ⟨-, -, -, ⟨-, hcase⟩ | ⟨name, payload, hmarked, -⟩⟩
          · exact hcase.symm
          · exact absurd (hmarked ▸ by simp) hspace
    | some parts =>
        obtain ⟨name, payload⟩ := parts
        obtain ⟨hmarked, hname⟩ := (Text.cut?_eq_some_iff ' ' (marked v) name payload).mp hcut
        have hspace : ' ' ∈ marked v := by simp [hmarked]
        dsimp only
        by_cases hpayload : (Text.trimStart payload).head? = some '('
        · rw [if_pos (by simpa using hpayload)]
          simp only [reduceCtorEq, false_iff]
          rintro ⟨-, -, -, ⟨hnone, -⟩ | ⟨name', payload', hmarked', hname', hhead', -⟩⟩
          · exact hnone hspace
          -- the name ends at the first space, so there is no other split
          · obtain ⟨rfl, rfl⟩ :=
              Text.append_cons_inj_of_not_mem hname hname' (hmarked.symm.trans hmarked')
            exact hhead' hpayload
        · rw [if_neg (by simpa using hpayload), Option.some.injEq]
          constructor
          · intro hcase
            exact ⟨hne, hhead, hcomma, .inr ⟨name, payload, hmarked, hname, hpayload, hcase.symm⟩⟩
          · rintro ⟨-, -, -, ⟨hnone, -⟩ | ⟨name', payload', hmarked', hname', -, hcase⟩⟩
            · exact absurd hspace hnone
            · obtain ⟨rfl, rfl⟩ :=
                Text.append_cons_inj_of_not_mem hname hname' (hmarked.symm.trans hmarked')
              exact hcase.symm

/-- Marking a value changes its first character only, and only if it is a backtick. -/
theorem marked_cases (value : List Char) :
    (value.head? ≠ some '`' ∧ marked value = value) ∨
      ∃ tag, value = '`' :: tag ∧ marked value = '#' :: tag := by
  unfold marked
  split
  · exact .inr ⟨_, rfl, rfl⟩
  · rename_i hother
    refine .inl ⟨?_, rfl⟩
    intro hhead
    obtain ⟨tag, htag⟩ := List.head?_eq_some_iff.mp hhead
    exact hother tag htag

/-- A marked value holds a number sign and characters of the value. -/
theorem mem_of_mem_marked {value : List Char} {c : Char} (h : c ∈ marked value) :
    c ∈ value ∨ c = '#' := by
  rcases marked_cases value with ⟨-, hmarked⟩ | ⟨tag, rfl, hmarked⟩
  · exact .inl (hmarked ▸ h)
  · rw [hmarked] at h
    rcases List.mem_cons.mp h with rfl | h
    · exact .inr rfl
    · exact .inl (List.mem_cons_of_mem _ h)

/-- A pattern is made of characters of its trimmed value and of the marks that are added to it. -/
theorem mem_of_mem_pattern? {value case : List Char} (h : pattern? value = some case) {c : Char}
    (hc : c ∈ case) : c ∈ Text.trim value ∨ c ∈ ['#', '(', ')'] := by
  have hmarked : ∀ x ∈ marked (Text.trim value), x ∈ Text.trim value ∨ x ∈ ['#', '(', ')'] := by
    intro x hx
    rcases mem_of_mem_marked hx with hx | rfl
    · exact .inl hx
    · exact .inr (by simp)
  obtain ⟨-, -, -, ⟨-, rfl⟩ | ⟨name, payload, hsplit, -, -, rfl⟩⟩ :=
    (pattern?_eq_some_iff value case).mp h
  · exact hmarked c hc
  · rw [hsplit] at hmarked
    simp only [List.append_assoc, List.cons_append, List.mem_append, List.mem_cons,
      List.not_mem_nil, or_false] at hc
    rcases hc with hname | rfl | hpayload | rfl
    · exact hmarked c (by simp [hname])
    · exact .inr (by simp)
    · exact hmarked c (by simp [Text.mem_of_mem_trim hpayload])
    · exact .inr (by simp)

/-- A pattern is made of characters of its line and of the marks that are added to a value. -/
theorem mem_of_mem_lineCases {line case : List Char} (h : case ∈ lineCases line) {c : Char}
    (hc : c ∈ case) : c ∈ line ∨ c ∈ ['#', '(', ')'] := by
  obtain ⟨value, hvalue, hcase⟩ := List.mem_filterMap.mp h
  rcases mem_of_mem_pattern? hcase hc with hmem | hmark
  · exact .inl (mem_of_mem_alternatives hvalue (Text.mem_of_mem_trim hmem))
  · exact .inr hmark

/-! ## The file after the fix -/

/-- The text for arms: a line for each arm and the padding of the delimiter. The first line lacks
the padding, since it starts where the delimiter stood. -/
theorem units_armsText {range : Range} {c : Nat} (first : List Char) (more : List (List Char))
    (hcolumn : range.stop.character.toNat = c + 1) :
    units (armsText range (first :: more)) =
      [lineFeed].intercalate (units (arm first) ::
        more.map (fun k => List.replicate c space ++ units (arm k)) ++
          [List.replicate c space]) := by
  have hpad := units_padding_closing hcolumn
  unfold armsText
  dsimp only
  rw [List.map_cons, intercalate_cons_eq_flatMap, List.cons_append, intercalate_cons_eq_flatMap,
    List.flatMap_append, List.flatMap_map, List.flatMap_map]
  simp only [Text.units_append, Text.units_cons, Text.units_flatMap, hpad,
    Text.characterUnits_lineFeed, List.flatMap_cons, List.flatMap_nil, List.append_nil,
    List.append_assoc, List.cons_append, List.nil_append]

/-- **Layout of the arms.** In a file whose last line of the range is cut before the closing
delimiter, in column `c`, the first arm continues the front of that line, the other arms are lines
of their own behind `c` spaces, and the delimiter with what follows it comes behind `c` spaces on
the next line. Nothing else changes. -/
theorem lines_edited_matchCases (site : Site) (i : Nat) (action : Action)
    (cases : List (List Char)) (c : Nat) (doc : Document) (before after : List (List UInt16))
    (front rest : List UInt16)
    (hfeedless : ∀ line ∈ site.lines, '\n' ∉ line)
    (hanswer : missingMatchCases.fix? site i = some action)
    (hcases : ShowsCases site.lines i cases)
    (hcolumn : site.range.stop.character.toNat = c + 1) (hfront : front.length = c)
    (hline : before.length = site.range.stop.line.toNat)
    (hdoc : doc.lines = before ++ (front ++ rest) :: after) :
    ∃ edit first more, action.changes = [(site.uri, [edit])] ∧ cases = first :: more ∧
      (doc.edited edit).lines =
        before ++ (front ++ units ("| ".toList ++ first ++ " => assert false".toList)) ::
          more.map (fun k =>
            List.replicate c space ++ units ("| ".toList ++ k ++ " => assert false".toList)) ++
          (List.replicate c space ++ rest) :: after := by
  obtain ⟨cases', hcases', hne, rfl⟩ := (fix?_missingMatchCases_iff site i action).mp hanswer
  have hsame : cases = cases' := by
    obtain ⟨-, -, -, -, hcases⟩ := hcases
    obtain ⟨-, -, -, -, hcases'⟩ := hcases'
    rw [hcases, hcases']
  subst hsame
  obtain ⟨first, more, rfl⟩ := List.exists_cons_of_ne_nil hne
  refine ⟨_, first, more, rfl, rfl, ?_⟩
  have htext := units_armsText first more hcolumn
  -- no arm holds a line feed: its pattern is made of a line's characters and of marks
  have harm : ∀ k ∈ first :: more, lineFeed ∉ units (arm k) := by
    intro k hk
    apply Text.lineFeed_not_mem_units
    obtain ⟨-, -, -, -, hshown⟩ := hcases
    rw [hshown] at hk
    obtain ⟨line, hmem, hcase⟩ := List.mem_flatMap.mp hk
    have hpattern : '\n' ∉ k := by
      intro hfeed
      rcases mem_of_mem_lineCases hcase hfeed with hfeed | hfeed
      · exact hfeedless line (List.mem_of_mem_drop hmem) hfeed
      · exact absurd hfeed (by decide)
    simp [arm, hpattern]
  exact doc.lines_edited_insertion hdoc site.range.closing hline
    (by rw [hfront, Range.toNat_closing_character hcolumn])
    (by rw [String.toList_ofList]; exact htext)
    (harm first List.mem_cons_self)
    (by
      intro line hmem
      obtain ⟨k, hk, rfl⟩ := List.mem_map.mp hmem
      rw [List.mem_append, not_or]
      exact ⟨Text.lineFeed_not_mem_spaces c, harm k (List.mem_cons_of_mem _ hk)⟩)
    (Text.lineFeed_not_mem_spaces c)

/-- Two arms below one another, before a brace that stands behind other text in column 5. -/
theorem lines_edited_matchCases_two_arms :
    ∃ (site : Site) (action : Action) (doc : Document) (edit : Edit),
      site.range = ⟨⟨0, 0⟩, ⟨0, 6⟩⟩ ∧
      site.lines = ["You forgot to handle a possible case here, for example:".toList,
        "(`A|B _)".toList] ∧
      missingMatchCases.fix? site 0 = some action ∧
      doc.lines = [units "f(x) \x7d".toList] ∧
      action.changes = [(site.uri, [edit])] ∧
      (doc.edited edit).lines = [units "f(x) | #A => assert false".toList,
        units "     | B(_) => assert false".toList, units "     \x7d".toList] := by
  let site : Site :=
    .bare ["You forgot to handle a possible case here, for example:".toList,
        "(`A|B _)".toList]
      ⟨⟨0, 0⟩, ⟨0, 6⟩⟩
  let doc : Document := ⟨[units "f(x) \x7d".toList], by decide⟩
  have hcases : ShowsCases site.lines 0 ["#A".toList, "B(_)".toList] :=
    ⟨_, [], rfl, by decide, by decide⟩
  obtain ⟨action, hanswer⟩ : ∃ action, missingMatchCases.fix? site 0 = some action :=
    ⟨_, (fix?_missingMatchCases_iff site 0 _).mpr ⟨_, hcases, by simp, rfl⟩⟩
  obtain ⟨edit, first, more, hedit, hlist, hlines⟩ := lines_edited_matchCases site 0 action _ 5 doc
    [] [] (units "f(x) ".toList) (units "\x7d".toList) (by decide) hanswer hcases rfl rfl rfl rfl
  obtain ⟨rfl, rfl⟩ := List.cons.inj hlist
  exact ⟨site, action, doc, edit, rfl, rfl, hanswer, rfl, hedit, hlines⟩

end QuickFix.Rule
