import QuickFix.Proofs.Rule.MatchCases

/-!
# The texts that are written as patterns

`IsPattern` is a grammar for patterns: a text without bars and commas that starts with neither a
parenthesis nor a backtick, has no blanks at its ends and, if it holds a space, is a name with a
payload in parentheses. `isPattern_iff` says that the grammar is exact: its texts are the patterns
of values without bars, and there are no others. Both parts of an application hold something because
a value is trimmed before it is cut at its first space: the space is neither its first nor its last
character.

Since no pattern holds a bar, the bars of the inserted text are those that start its arms
(`count_armsText`), and the same goes for line feeds when the message has none.
-/

set_option autoImplicit false

namespace QuickFix.Rule

/-- A name without spaces and its payload in parentheses. -/
def IsApplication (case : List Char) : Prop :=
  ∃ name payload, case = name ++ '(' :: payload ++ [')'] ∧ name ≠ [] ∧ ' ' ∉ name ∧
    payload ≠ [] ∧ Text.Trimmed payload ∧ payload.head? ≠ some '('

/-- The grammar of patterns. -/
structure IsPattern (case : List Char) : Prop where
  ne_nil : case ≠ []
  bar_not_mem : '|' ∉ case
  comma_not_mem : ',' ∉ case
  head_ne_opening : case.head? ≠ some '('
  head_ne_backtick : case.head? ≠ some '`'
  trimmed : Text.Trimmed case
  plain_or_application : ' ' ∉ case ∨ IsApplication case

/-! ## Patterns follow the grammar -/

/-- Marking the tag of a trimmed value leaves it trimmed. -/
theorem trimmed_marked {value : List Char} (h : Text.Trimmed value) :
    Text.Trimmed (marked value) := by
  rcases marked_cases value with ⟨-, hmarked⟩ | ⟨tag, rfl, hmarked⟩
  · rw [hmarked]
    exact h
  · rw [hmarked]
    constructor
    · intro c hc
      obtain rfl : '#' = c := Option.some.inj hc
      decide
    · intro c hc
      rcases List.eq_nil_or_concat tag with rfl | ⟨front, last, rfl⟩
      · obtain rfl : '#' = c := Option.some.inj hc
        decide
      · apply h.2 c
        rw [List.concat_eq_append, ← List.cons_append, List.getLast?_concat] at hc ⊢
        exact hc

/-- Marking leaves no value empty. -/
theorem marked_ne_nil {value : List Char} (h : value ≠ []) : marked value ≠ [] := by
  rcases marked_cases value with ⟨-, hmarked⟩ | ⟨tag, -, hmarked⟩
  · rw [hmarked]
    exact h
  · rw [hmarked]
    exact List.cons_ne_nil _ _

/-- A marked value starts with no backtick, and with no parenthesis unless the value does. -/
theorem head?_marked_ne {value : List Char} (h : value.head? ≠ some '(') :
    (marked value).head? ≠ some '(' ∧ (marked value).head? ≠ some '`' := by
  rcases marked_cases value with ⟨hhead, hmarked⟩ | ⟨tag, -, hmarked⟩
  · rw [hmarked]
    exact ⟨h, hhead⟩
  · rw [hmarked]
    simp

/-- The first space of a trimmed text has something before it and more than blanks behind it. -/
theorem ne_nil_of_trimmed_append_space {name payload : List Char}
    (h : Text.Trimmed (name ++ ' ' :: payload)) : name ≠ [] ∧ Text.trim payload ≠ [] := by
  constructor
  · rintro rfl
    exact absurd (h.1 ' ' rfl) (by decide)
  · intro hnil
    have hblank := Text.isBlank_of_trim_eq_nil hnil
    rcases List.eq_nil_or_concat payload with rfl | ⟨front, last, rfl⟩
    · exact absurd (h.2 ' ' (by simp)) (by decide)
    · rw [List.concat_eq_append, ← List.cons_append, ← List.append_assoc] at h
      have hlast := h.2 last List.getLast?_concat
      rw [hblank last (by simp)] at hlast
      cases hlast

/-- What a name and its payload in parentheses start with is what the name starts with. -/
theorem head?_append_of_ne_nil {name : List Char} (h : name ≠ []) (t t' : List Char) :
    (name ++ t).head? = (name ++ t').head? := by
  obtain ⟨c, rest, rfl⟩ := List.exists_cons_of_ne_nil h
  rfl

/-- The pattern made of a value without bars is in the grammar of patterns. -/
theorem isPattern_of_pattern? {value case : List Char} (hbar : '|' ∉ value)
    (h : pattern? value = some case) : IsPattern case := by
  obtain ⟨hne, hopening, hcomma, hform⟩ := (pattern?_eq_some_iff value case).mp h
  have hmarked : Text.Trimmed (marked (Text.trim value)) := trimmed_marked (Text.trimmed_trim value)
  obtain ⟨hparen, hbacktick⟩ := head?_marked_ne hopening
  have hbar' : '|' ∉ case := by
    intro hmem
    rcases mem_of_mem_pattern? h hmem with hmem | hmark
    · exact hbar (Text.mem_of_mem_trim hmem)
    · simp at hmark
  have hcomma' : ',' ∉ case := by
    intro hmem
    rcases mem_of_mem_pattern? h hmem with hmem | hmark
    · exact hcomma hmem
    · simp at hmark
  rcases hform with ⟨hspace, rfl⟩ | ⟨name, payload, hsplit, hname, hpayload, rfl⟩
  · exact ⟨marked_ne_nil hne, hbar', hcomma', hparen, hbacktick, hmarked, .inl hspace⟩
  · rw [hsplit] at hmarked hparen hbacktick
    obtain ⟨hname_ne, hpayload_ne⟩ := ne_nil_of_trimmed_append_space hmarked
    -- the name is not empty, so the pattern starts as its value does
    have hhead : (name ++ '(' :: Text.trim payload ++ [')']).head? =
        (name ++ ' ' :: payload).head? := by
      rw [List.append_assoc]
      exact head?_append_of_ne_nil hname_ne _ _
    refine ⟨by simp, hbar', hcomma', ?_, ?_, ⟨?_, ?_⟩, .inr ?_⟩
    · rw [hhead]
      exact hparen
    · rw [hhead]
      exact hbacktick
    · rw [hhead]
      exact hmarked.1
    · intro c hc
      rw [List.getLast?_concat] at hc
      obtain rfl : ')' = c := Option.some.inj hc
      decide
    · refine ⟨name, Text.trim payload, rfl, hname_ne, hname, hpayload_ne,
        Text.trimmed_trim payload, ?_⟩
      intro hopen
      exact hpayload (Text.head?_trimStart hopen)

/-! ## The grammar has no other texts -/

/-- A value that does not start with a backtick is left as it is. -/
theorem marked_eq_self {value : List Char} (h : value.head? ≠ some '`') : marked value = value := by
  rcases marked_cases value with ⟨-, hmarked⟩ | ⟨tag, rfl, -⟩
  · exact hmarked
  · exact absurd rfl h

/-- A text without spaces is its own pattern; an application is the pattern of its name and its
payload with a space between them. -/
theorem exists_pattern?_eq_of_isPattern {case : List Char} (h : IsPattern case) :
    ∃ value, '|' ∉ value ∧ pattern? value = some case := by
  rcases h.plain_or_application with hspace | ⟨name, payload, hcase, hname_ne, hname, hpayload_ne,
    hpayload, hopening⟩
  · refine ⟨case, h.bar_not_mem, (pattern?_eq_some_iff case case).mpr ?_⟩
    rw [(Text.trimmed_iff case).mp h.trimmed, marked_eq_self h.head_ne_backtick]
    exact ⟨h.ne_nil, h.head_ne_opening, h.comma_not_mem, .inl ⟨hspace, rfl⟩⟩
  · have hhead : (name ++ ' ' :: payload).head? = case.head? := by
      rw [hcase, List.append_assoc]
      exact head?_append_of_ne_nil hname_ne _ _
    have hmem : ∀ c ∈ name ++ ' ' :: payload, c ∈ case ∨ c = ' ' := by
      intro c hc
      rw [hcase]
      simp only [List.mem_append, List.mem_cons] at hc ⊢
      tauto
    have htrim : Text.trim (name ++ ' ' :: payload) = name ++ ' ' :: payload := by
      apply (Text.trimmed_iff _).mp
      constructor
      · rw [hhead]
        exact h.trimmed.1
      · intro c hc
        apply hpayload.2 c
        obtain ⟨first, rest, rfl⟩ := List.exists_cons_of_ne_nil hpayload_ne
        rw [List.getLast?_append, List.getLast?_cons_cons] at hc
        simpa using hc
    refine ⟨name ++ ' ' :: payload, ?_, (pattern?_eq_some_iff _ case).mpr ?_⟩
    · intro hbar
      rcases hmem '|' hbar with hbar | hbar
      · exact h.bar_not_mem hbar
      · cases hbar
    · rw [htrim, marked_eq_self (hhead ▸ h.head_ne_backtick), hhead]
      refine ⟨by simp, h.head_ne_opening, ?_, .inr ⟨name, payload, rfl, hname, ?_, ?_⟩⟩
      · intro hcomma
        rcases hmem ',' hcomma with hcomma | hcomma
        · exact h.comma_not_mem hcomma
        · cases hcomma
      · rw [hpayload.trimStart_eq_self]
        exact hopening
      · rw [(Text.trimmed_iff payload).mp hpayload]
        exact hcase

/-- The texts of the grammar are the patterns of values without bars. -/
theorem isPattern_iff (case : List Char) :
    IsPattern case ↔ ∃ value, '|' ∉ value ∧ pattern? value = some case := by
  constructor
  · exact exists_pattern?_eq_of_isPattern
  · rintro ⟨value, hbar, hcase⟩
    exact isPattern_of_pattern? hbar hcase

/-! ## The inserted text -/

/-- The values of a line hold no bar: it is cut at each of them. -/
theorem bar_not_mem_of_mem_alternatives {line value : List Char} (h : value ∈ alternatives line) :
    '|' ∉ value := by
  intro hbar
  unfold alternatives at h
  dsimp only at h
  split at h
  · have hsep := (Text.of_mem_of_mem_pieces h hbar).2
    simp at hsep
  · rename_i hnone
    rw [List.mem_singleton] at h
    rw [h] at hbar
    exact hnone (List.contains_iff_mem.mpr hbar)

/-- The patterns for the values on a line are in the grammar of patterns. -/
theorem isPattern_of_mem_lineCases {line case : List Char} (h : case ∈ lineCases line) :
    IsPattern case := by
  obtain ⟨value, hvalue, hcase⟩ := List.mem_filterMap.mp h
  exact (isPattern_iff case).mpr ⟨value, bar_not_mem_of_mem_alternatives hvalue, hcase⟩

/-- Each arm is followed by a line feed and the padding of the delimiter. -/
theorem armsText_eq_flatMap (range : Range) {cases : List (List Char)} (h : cases ≠ []) :
    armsText range cases =
      cases.flatMap fun k => arm k ++ '\n' :: padding range.closing.character := by
  obtain ⟨first, more, rfl⟩ := List.exists_cons_of_ne_nil h
  clear h
  unfold armsText
  dsimp only
  induction more generalizing first with
  | nil => simp
  | cons second more ih =>
      rw [List.map_cons, List.map_cons, List.intercalate_cons_cons, ← List.map_cons,
        List.append_assoc, ih]
      simp only [List.flatMap_cons, List.append_assoc]

/-- A character that is in no pattern occurs as often as the arms have it, the space of the padding
apart. -/
theorem count_armsText (range : Range) {cases : List (List Char)} {x : Char} (hx : x ≠ ' ')
    (hne : cases ≠ []) (hcases : ∀ k ∈ cases, x ∉ k) :
    (armsText range cases).count x = cases.length * (arm [] ++ ['\n']).count x := by
  have hpad : (padding range.closing.character).count x = 0 := by
    rw [List.count_eq_zero]
    intro hmem
    exact hx (List.eq_of_mem_replicate hmem)
  have harm : ∀ k, x ∉ k → (arm k).count x = (arm []).count x := by
    intro k hk
    unfold arm
    simp only [List.count_append, List.count_eq_zero_of_not_mem hk, List.count_nil]
  rw [armsText_eq_flatMap range hne]
  clear hne
  induction cases with
  | nil => simp
  | cons k cases ih =>
      rw [List.flatMap_cons, List.count_append, List.count_append, List.count_cons, hpad,
        harm k (hcases k List.mem_cons_self),
        ih fun k' hk' => hcases k' (List.mem_cons_of_mem k hk'), List.length_cons, Nat.succ_mul,
        List.count_append, List.count_cons, List.count_nil]
      omega

/-- The patterns that lines ask for are as many as there are values that can be written as one. -/
theorem ShowsCases.length_eq_countP {lines : List (List Char)} {i : Nat}
    {cases : List (List Char)} (h : ShowsCases lines i cases) :
    cases.length =
      ((lines.drop (i + 1)).flatMap alternatives).countP fun value => (pattern? value).isSome := by
  obtain ⟨-, -, -, -, hcases⟩ := h
  rw [hcases, ← patterns_eq_flatMap, patterns, List.length_filterMap_eq_countP]

/-- The patterns that lines ask for are in the grammar of patterns. -/
theorem ShowsCases.isPattern {lines : List (List Char)} {i : Nat} {cases : List (List Char)}
    (h : ShowsCases lines i cases) : ∀ case ∈ cases, IsPattern case := by
  intro case hcase
  obtain ⟨-, -, -, -, hcases⟩ := h
  rw [hcases] at hcase
  obtain ⟨line, -, hline⟩ := List.mem_flatMap.mp hcase
  exact isPattern_of_mem_lineCases hline

/-- The patterns that lines ask for have no line feed, as the lines have none. -/
theorem ShowsCases.lineFeed_not_mem {lines : List (List Char)} {i : Nat}
    {cases : List (List Char)} (h : ShowsCases lines i cases)
    (hfeedless : ∀ line ∈ lines, '\n' ∉ line) : ∀ case ∈ cases, '\n' ∉ case := by
  intro case hcase hfeed
  obtain ⟨-, -, -, -, hcases⟩ := h
  rw [hcases] at hcase
  obtain ⟨line, hmem, hline⟩ := List.mem_flatMap.mp hcase
  rcases mem_of_mem_lineCases hline hfeed with hfeed | hmark
  · exact hfeedless line (List.mem_of_mem_drop hmem) hfeed
  · simp at hmark

/-- **Grammar of the inserted arms.** Where the rule answers, it inserts an arm for each value that
can be written as a pattern. Every pattern follows the grammar. There are as many bars in the
inserted text as arms, and as many line feeds if the lines of the message hold none. -/
theorem isPattern_of_fix?_missingMatchCases (site : Site) (i : Nat) (action : Action)
    (h : missingMatchCases.fix? site i = some action) :
    ∃ edit cases, action.changes = [(site.uri, [edit])] ∧ ShowsCases site.lines i cases ∧
      edit.newText.toList = armsText site.range cases ∧
      (∀ case ∈ cases, IsPattern case) ∧
      cases.length = ((site.lines.drop (i + 1)).flatMap alternatives).countP
        (fun value => (pattern? value).isSome) ∧
      edit.newText.toList.count '|' = cases.length ∧
      ((∀ line ∈ site.lines, '\n' ∉ line) → edit.newText.toList.count '\n' = cases.length) := by
  obtain ⟨cases, hcases, hne, rfl⟩ := (fix?_missingMatchCases_iff site i action).mp h
  have htext : (site.range.insertBeforeLast
      (String.ofList (armsText site.range cases))).newText.toList = armsText site.range cases :=
    String.toList_ofList
  refine ⟨_, cases, rfl, hcases, htext, hcases.isPattern, hcases.length_eq_countP, ?_, ?_⟩
  · have hone : (arm [] ++ ['\n']).count '|' = 1 := by decide
    rw [htext, count_armsText site.range (by decide) hne
      fun k hk => (hcases.isPattern k hk).bar_not_mem, hone, Nat.mul_one]
  · intro hfeedless
    have hone : (arm [] ++ ['\n']).count '\n' = 1 := by decide
    rw [htext, count_armsText site.range (by decide) hne (hcases.lineFeed_not_mem hfeedless), hone,
      Nat.mul_one]

/-- Values with a backtick, with several blanks before a payload that holds more spaces, and one
that is given up. -/
theorem isPattern_of_fix?_missingMatchCases_blanks :
    ∃ (site : Site) (action : Action) (edit : Edit),
      site.lines = ["You forgot to handle a possible case here, for example:".toList,
        "(` \u00a0A b|Some (x)|C)".toList] ∧
      missingMatchCases.fix? site 0 = some action ∧ action.changes = [(site.uri, [edit])] ∧
      edit.newText = "| #(A b) => assert false\n| C => assert false\n" ∧
      IsPattern "#(A b)".toList ∧ IsPattern "C".toList ∧
      edit.newText.toList.count '|' = 2 ∧ edit.newText.toList.count '\n' = 2 := by
  let site : Site :=
    .bare ["You forgot to handle a possible case here, for example:".toList,
        "(` \u00a0A b|Some (x)|C)".toList]
      ⟨⟨0, 0⟩, ⟨2, 1⟩⟩
  have hcases : ShowsCases site.lines 0 ["#(A b)".toList, "C".toList] :=
    ⟨_, [], rfl, by decide, by decide⟩
  obtain ⟨action, hanswer⟩ : ∃ action, missingMatchCases.fix? site 0 = some action :=
    ⟨_, (fix?_missingMatchCases_iff site 0 _).mpr ⟨_, hcases, by simp, rfl⟩⟩
  obtain ⟨edit, cases, hchanges, ⟨-, -, -, -, hshown⟩, htext, hpattern, -, hbars, hfeeds⟩ :=
    isPattern_of_fix?_missingMatchCases site 0 action hanswer
  obtain rfl : cases = ["#(A b)".toList, "C".toList] := hshown.trans (by decide)
  refine ⟨site, action, edit, rfl, hanswer, hchanges, ?_, hpattern _ (by simp),
    hpattern _ (by simp), hbars, hfeeds (by decide)⟩
  rw [← String.toList_inj, htext]
  decide

end QuickFix.Rule
