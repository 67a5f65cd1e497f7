import QuickFix.Proofs.Rule.Basic
import QuickFix.Proofs.Search

/-!
# Reading a suggested identifier

What the rule for suggestions finds in a line. It needs the identifier to hold something, so a line
without a hint and a hint without an identifier are the same to it: `hinted` is the identifier
behind the leftmost hint, empty in both cases, and `suggestion_eq` says that the rule depends on it
alone.

The hint ends with a space, and a space behind a line can complete one. What follows is then blank,
and there is no other hint in the line, since it would not fit; so the rule finds nothing either
way, and blanks at the ends of a line change nothing (`suggestion_trim`).

The trigger holds the hint, apart from the space at its end. If the space follows, the first hint of
the line is the one in the trigger, since what stands before it has no capital D
(`exists_firstHint_of_trigger`); if not, a hint further on can be the first one.
`fix?_identifierSuggestion_iff` says what is read in both cases.
-/

set_option autoImplicit false

namespace QuickFix.Rule

/-- What a suggested identifier stands behind. -/
def hint : List Char :=
  "Did you mean ".toList

/-- The identifier behind the leftmost hint of a line, empty if there is none. -/
def hinted (line : List Char) : List Char :=
  (suggested? line).getD []

/-- The suggested identifier is the run of identifier characters behind the leftmost hint. -/
theorem hinted_eq (line : List Char) :
    hinted line =
      ((Text.leftmost? (Text.after? hint) line).map (List.takeWhile isIdentifierChar)).getD [] :=
  rfl

/-- The rule replaces the whole range by the suggested identifier, if it is not empty. -/
theorem suggestion_eq (range : Range) (line : List Char) :
    suggestion range line =
      (triggered? "Hint: Did you mean" line).bind fun _ =>
        if (hinted line).isEmpty then none
        else some ⟨"Replace with '" ++ String.ofList (hinted line) ++ "'",
          [⟨range, String.ofList (hinted line)⟩]⟩ := by
  unfold suggestion hinted
  cases suggested? line with
  | none => rfl
  | some name => rfl

/-- A hint at the start of a text comes first; without one there, it is looked for further on. -/
theorem hinted_cons (c : Char) (s : List Char) :
    hinted (c :: s) =
      match Text.after? hint (c :: s) with
      | some rest => rest.takeWhile isIdentifierChar
      | none => hinted s := by
  rw [hinted_eq, Text.leftmost?]
  cases Text.after? hint (c :: s) with
  | none => rfl
  | some rest => rfl

/-- No blank is part of an identifier. -/
theorem isIdentifierChar_of_isBlank (c : Char) (h : Text.isBlank c = true) :
    isIdentifierChar c = false :=
  Text.of_isBlank (P := fun c => isIdentifierChar c = false) (by decide) h

/-- No hint starts with a blank. -/
theorem hint_cons_blank (c : Char) (s : List Char) (h : Text.isBlank c = true) :
    Text.after? hint (c :: s) = none :=
  Text.after?_cons_blank h (by decide)

/-- A text shorter than the hint has none. -/
theorem hinted_of_length_lt {s : List Char} (h : s.length < hint.length) : hinted s = [] := by
  rw [hinted_eq]
  cases hfound : Text.leftmost? (Text.after? hint) s with
  | none => rfl
  | some rest =>
      obtain ⟨before, t, rfl, ht, -⟩ := (Text.leftmost?_eq_some_iff _ s rest).mp hfound
      have hlength := congrArg List.length ((Text.after?_eq_some_iff hint t rest).mp ht)
      rw [List.length_append] at h hlength
      omega

/-- Blanks in front of a line do not change the suggested identifier. -/
theorem hinted_blanks_append {l : List Char} (hl : ∀ c ∈ l, Text.isBlank c = true)
    (s : List Char) : hinted (l ++ s) = hinted s := by
  rw [hinted_eq, hinted_eq, Text.leftmost?_blanks_append hint_cons_blank hl]

/-- Blanks behind a line do not change the suggested identifier. -/
theorem hinted_append_blanks {r : List Char} (hr : ∀ c ∈ r, Text.isBlank c = true)
    (s : List Char) : hinted (s ++ r) = hinted s := by
  induction s with
  | nil => simpa using hinted_blanks_append hr []
  | cons c s ih =>
      rw [List.cons_append, hinted_cons, hinted_cons]
      cases hinside : Text.after? hint (c :: s) with
      | some rest =>
          have htext := (Text.after?_eq_some_iff hint (c :: s) rest).mp hinside
          have hmore : Text.after? hint (c :: (s ++ r)) = some (rest ++ r) := by
            rw [Text.after?_eq_some_iff, ← List.cons_append, htext, List.append_assoc]
          rw [hmore]
          exact Text.takeWhile_append_blanks isIdentifierChar_of_isBlank hr rest
      | none =>
          cases hacross : Text.after? hint (c :: (s ++ r)) with
          | none => exact ih
          | some rest =>
              -- the hint reaches into the blanks, so `s` is too short for another one
              rw [Text.after?_eq_some_iff, ← List.cons_append] at hacross
              rcases List.append_eq_append_iff.mp hacross with ⟨a, ha, hra⟩ | ⟨b, hb, -⟩
              · have hlength := congrArg List.length ha
                rw [List.length_append, List.length_cons] at hlength
                have hshort : hinted s = [] := hinted_of_length_lt (by omega)
                have hrest : ∀ c ∈ rest, Text.isBlank c = true := by
                  intro x hx
                  exact hr x (by simp [hra, hx])
                show rest.takeWhile isIdentifierChar = hinted s
                rw [hshort]
                exact Text.takeWhile_append_blanks isIdentifierChar_of_isBlank hrest []
              · rw [(Text.after?_eq_some_iff hint (c :: s) b).mpr hb] at hinside
                cases hinside

/-- Blanks at the ends of a line change nothing about the suggestion that is proposed. -/
theorem suggestion_trim (range : Range) (line : List Char) :
    suggestion range (Text.trim line) = suggestion range line := by
  have hname : hinted (Text.trim line) = hinted line :=
    Text.apply_trim (fun _ s hl => hinted_blanks_append hl s)
      (fun s _ hr => hinted_append_blanks hr s) line
  rw [suggestion_eq, suggestion_eq, triggered?_trim, hname]

/-! ## The first hint in a line -/

/-- The first hint of a line stands behind `before`, and `after` follows it. -/
def FirstHint (line before after : List Char) : Prop :=
  Text.FirstPlace (hint <+: ·) line before (hint ++ after)

/-- The hint and the identifier behind it, as a pattern. -/
def suggestionPattern : List Text.Element :=
  [.text hint, .run isIdentifierChar 0]

/-- The suggested identifier is the longest run behind the first hint. -/
theorem suggested?_eq_some_iff (line name : List Char) :
    suggested? line = some name ↔
      ∃ before after rest, FirstHint line before after ∧
        Text.StartsWithRun isIdentifierChar after name rest := by
  have hfits : ∀ t, hint <+: t ↔ ∃ after, Text.after? hint t = some after := by
    intro t
    exact exists_congr fun after => eq_comm.trans (Text.after?_eq_some_iff hint t after).symm
  show (Text.leftmost? (Text.after? hint) line).map (List.takeWhile isIdentifierChar) =
    some name ↔ _
  rw [Option.map_eq_some_iff]
  simp only [Text.leftmost?_eq_some_iff_firstPlace hfits, Text.after?_eq_some_iff,
    Text.startsWithRun_iff]
  constructor
  · rintro ⟨after, ⟨before, t, hplace, rfl⟩, rfl⟩
    exact ⟨before, after, _, hplace, rfl, rfl⟩
  · rintro ⟨before, after, rest, hplace, rfl, -⟩
    exact ⟨after, ⟨before, hint ++ after, hplace, rfl⟩, rfl⟩

/-- The identifier is what a backtracking search captures. -/
theorem search_suggestionPattern_eq_some_iff (line : List Char) (captured : List (List Char)) :
    Text.search suggestionPattern line = some captured ↔
      ∃ before after name tail, FirstHint line before after ∧
        Text.StartsWithRun isIdentifierChar after name tail ∧ captured = [name] := by
  have hcaptures : ∀ s, (Text.captures suggestionPattern s).head? =
      (Text.after? hint s).map fun after => [after.takeWhile isIdentifierChar] := by
    intro s
    unfold suggestionPattern
    rw [Text.head?_captures_text, Option.map_eq_bind]
    apply Option.bind_congr
    intro after _
    rw [Text.head?_captures_run_last, if_neg (Nat.not_lt_zero _)]
    rfl
  have hsearch : Text.search suggestionPattern line =
      (suggested? line).map fun name => [name] := by
    unfold Text.search
    simp only [hcaptures]
    rw [Text.leftmost?_map]
    show _ = ((Text.leftmost? (Text.after? hint) line).map _).map _
    rw [Option.map_map]
    rfl
  rw [hsearch, Option.map_eq_some_iff]
  simp only [suggested?_eq_some_iff]
  constructor
  · rintro ⟨name, ⟨before, after, tail, hhint, hrun⟩, rfl⟩
    exact ⟨before, after, name, tail, hhint, hrun, rfl⟩
  · rintro ⟨before, after, name, tail, hhint, hrun, rfl⟩
    exact ⟨name, ⟨before, after, tail, hhint, hrun⟩, rfl⟩

/-- A replacement is proposed exactly if the line has the trigger and an identifier stands behind
its first hint. -/
theorem suggestion_eq_some_iff (range : Range) (line : List Char) (p : Proposal) :
    suggestion range line = some p ↔
      ∃ before after name rest, (∃ rest, Text.trim line = "Hint: Did you mean".toList ++ rest) ∧
        FirstHint line before after ∧ Text.StartsWithRun isIdentifierChar after name rest ∧
        name ≠ [] ∧
        p = ⟨"Replace with '" ++ String.ofList name ++ "'", [⟨range, String.ofList name⟩]⟩ := by
  unfold suggestion
  simp only [Option.bind_eq_bind, Option.bind_eq_some_iff, triggered?_eq_some_iff,
    suggested?_eq_some_iff]
  constructor
  · rintro ⟨rest', htrigger, name, ⟨before, after, rest, hhint, hrun⟩, hname⟩
    split at hname
    · cases hname
    · rename_i hne
      refine ⟨before, after, name, rest, ⟨rest', htrigger⟩, hhint, hrun, by simpa using hne, ?_⟩
      exact (Option.some.inj hname).symm
  · rintro ⟨before, after, name, rest, ⟨rest', htrigger⟩, hhint, hrun, hne, rfl⟩
    refine ⟨rest', htrigger, name, ⟨before, after, rest, hhint, hrun⟩, ?_⟩
    rw [if_neg (by simpa using hne)]

/-- Where a space follows the trigger, the first hint is the one inside the trigger. -/
theorem exists_firstHint_of_trigger {line rest : List Char}
    (h : Text.trim line = "Hint: Did you mean ".toList ++ rest) :
    ∃ l r, (∀ c ∈ l, Text.isBlank c = true) ∧ (∀ c ∈ r, Text.isBlank c = true) ∧
      FirstHint line (l ++ "Hint: ".toList) (rest ++ r) := by
  obtain ⟨l, r, hl, hr, hline⟩ := Text.exists_blanks_trim line
  refine ⟨l, r, hl, hr, ?_⟩
  have hcapital : 'D' ∉ l ++ "Hint: ".toList := by
    intro hmem
    rcases List.mem_append.mp hmem with hmem | hmem
    · exact absurd (hl 'D' hmem) (by decide)
    · exact absurd hmem (by decide)
  have htrigger : "Hint: Did you mean ".toList = "Hint: ".toList ++ hint := by decide
  have htext : line = (l ++ "Hint: ".toList) ++ (hint ++ (rest ++ r)) := by
    rw [hline, h, htrigger]
    simp only [List.append_assoc]
  rw [htext]
  exact Text.firstPlace_of_not_mem hcapital

/-- A line has at most one first hint. -/
theorem FirstHint.unique {line before after before' after' : List Char}
    (h : FirstHint line before after) (h' : FirstHint line before' after') :
    before = before' ∧ after = after' := by
  obtain ⟨hbefore, hafter⟩ := Text.FirstPlace.unique h h'
  exact ⟨hbefore, List.append_cancel_left hafter⟩

/-- Where a space follows the trigger, the identifier is the one behind that space. -/
theorem suggestion_eq_some_iff_of_trigger {line rest : List Char}
    (h : Text.trim line = "Hint: Did you mean ".toList ++ rest) (range : Range) (p : Proposal) :
    suggestion range line = some p ↔
      ∃ name tail, Text.StartsWithRun isIdentifierChar rest name tail ∧ name ≠ [] ∧
        p = ⟨"Replace with '" ++ String.ofList name ++ "'", [⟨range, String.ofList name⟩]⟩ := by
  obtain ⟨l, r, -, hr, hfirst⟩ := exists_firstHint_of_trigger h
  -- the blanks that were trimmed off behind the line belong to no identifier
  have hsame : (rest ++ r).takeWhile isIdentifierChar = rest.takeWhile isIdentifierChar :=
    Text.takeWhile_append_blanks isIdentifierChar_of_isBlank hr rest
  have htrigger : "Hint: Did you mean ".toList = "Hint: Did you mean".toList ++ [' '] := by decide
  rw [suggestion_eq_some_iff]
  simp only [Text.startsWithRun_iff]
  constructor
  · rintro ⟨before, after, name, tail, -, hhint, ⟨hname, -⟩, hne, rfl⟩
    obtain ⟨-, rfl⟩ := hhint.unique hfirst
    exact ⟨name, _, ⟨hname.trans hsame, rfl⟩, hne, rfl⟩
  · rintro ⟨name, tail, ⟨hname, -⟩, hne, rfl⟩
    refine ⟨_, _, name, _, ⟨' ' :: rest, ?_⟩, hfirst, ⟨hname.trans hsame.symm, rfl⟩, hne, rfl⟩
    rw [h, htrigger, List.append_assoc, List.singleton_append]

/-- **What a suggestion is read from.** The rule answers exactly on a line that starts with the
trigger, blanks aside, and has an identifier right behind its first hint. It then replaces the range
by this identifier, the one that a backtracking search captures. If a space follows the trigger, the
first hint is the one inside it, so that the identifier is the one behind the space or there is no
answer, whatever hints come later. -/
theorem fix?_identifierSuggestion_iff (site : Site) (i : Nat) :
    (∀ action, identifierSuggestion.fix? site i = some action ↔
      ∃ line before after name tail, site.lines[i]? = some line ∧
        (∃ rest, Text.trim line = "Hint: Did you mean".toList ++ rest) ∧
        FirstHint line before after ∧ Text.StartsWithRun isIdentifierChar after name tail ∧
        name ≠ [] ∧
        action = Proposal.toAction ⟨"Replace with '" ++ String.ofList name ++ "'",
          [⟨site.range, String.ofList name⟩]⟩ site.uri site.diagnostic) ∧
    (∀ line captured, Text.search suggestionPattern line = some captured ↔
      ∃ before after name tail, FirstHint line before after ∧
        Text.StartsWithRun isIdentifierChar after name tail ∧ captured = [name]) ∧
    ∀ line rest, site.lines[i]? = some line →
      Text.trim line = "Hint: Did you mean ".toList ++ rest →
      (∃ l r, (∀ c ∈ l, Text.isBlank c = true) ∧ (∀ c ∈ r, Text.isBlank c = true) ∧
        FirstHint line (l ++ "Hint: ".toList) (rest ++ r)) ∧
      ∀ action, identifierSuggestion.fix? site i = some action ↔
        ∃ name tail, Text.StartsWithRun isIdentifierChar rest name tail ∧ name ≠ [] ∧
          action = Proposal.toAction ⟨"Replace with '" ++ String.ofList name ++ "'",
            [⟨site.range, String.ofList name⟩]⟩ site.uri site.diagnostic := by
  refine ⟨?_, search_suggestionPattern_eq_some_iff, ?_⟩
  · intro action
    rw [fix?_eq_some_iff_onLine?]
    constructor
    · rintro ⟨line, p, hline, hp, rfl⟩
      obtain ⟨before, after, name, tail, htrigger, hhint, hrun, hne, rfl⟩ :=
        (suggestion_eq_some_iff site.range line p).mp hp
      exact ⟨line, before, after, name, tail, hline, htrigger, hhint, hrun, hne, rfl⟩
    · rintro ⟨line, before, after, name, tail, hline, htrigger, hhint, hrun, hne, rfl⟩
      refine ⟨line, _, hline, (suggestion_eq_some_iff site.range line _).mpr ?_, rfl⟩
      exact ⟨before, after, name, tail, htrigger, hhint, hrun, hne, rfl⟩
  · intro line rest hline htrigger
    refine ⟨exists_firstHint_of_trigger htrigger, ?_⟩
    intro action
    rw [fix?_eq_some_iff_onLine?]
    constructor
    · rintro ⟨line', p, hline', hp, rfl⟩
      obtain rfl : line = line' := Option.some.inj (hline.symm.trans hline')
      obtain ⟨name, tail, hrun, hne, rfl⟩ :=
        (suggestion_eq_some_iff_of_trigger htrigger site.range p).mp hp
      exact ⟨name, tail, hrun, hne, rfl⟩
    · rintro ⟨name, tail, hrun, hne, rfl⟩
      refine ⟨line, _, hline, ?_, rfl⟩
      exact (suggestion_eq_some_iff_of_trigger htrigger site.range _).mpr
        ⟨name, tail, hrun, hne, rfl⟩

/-- A hint behind a trigger that no space follows, and a trigger with a space but no identifier
behind it, before a later hint. -/
theorem fix?_identifierSuggestion_iff_later :
    ∃ (site : Site) (action : Action),
      site.lines = ["Hint: Did you meant? Did you mean x'1?".toList,
        "\tHint: Did you mean ? Did you mean y".toList] ∧
      identifierSuggestion.fix? site 0 = some action ∧
      action.changes = [(site.uri, [⟨site.range, "x'1"⟩])] ∧
      Text.search suggestionPattern "Hint: Did you meant? Did you mean x'1?".toList =
        some ["x'1".toList] ∧
      identifierSuggestion.fix? site 1 = none := by
  let site : Site :=
    .bare ["Hint: Did you meant? Did you mean x'1?".toList,
        "\tHint: Did you mean ? Did you mean y".toList]
      ⟨⟨0, 0⟩, ⟨0, 3⟩⟩
  obtain ⟨before, after, tail, hhint, hrun⟩ := (suggested?_eq_some_iff
    "Hint: Did you meant? Did you mean x'1?".toList "x'1".toList).mp (by decide)
  have htrigger : Text.trim "Hint: Did you meant? Did you mean x'1?".toList =
      "Hint: Did you mean".toList ++ "t? Did you mean x'1?".toList := by decide
  obtain ⟨hanswer, hsearch, -⟩ := fix?_identifierSuggestion_iff site 0
  refine ⟨site, _, rfl, (hanswer _).mpr ⟨_, before, after, "x'1".toList, tail, rfl, ⟨_, htrigger⟩,
    hhint, hrun, by decide, rfl⟩, rfl, (hsearch _ _).mpr ⟨before, after, _, tail, hhint, hrun, rfl⟩,
    ?_⟩
  obtain ⟨-, hspace⟩ := (fix?_identifierSuggestion_iff site 1).2.2 _
    "? Did you mean y".toList rfl (by decide)
  cases hfix : identifierSuggestion.fix? site 1 with
  | none => rfl
  | some action =>
      -- the run behind the trigger is empty
      obtain ⟨name, tail, hrun, hne, -⟩ := (hspace action).mp hfix
      exact absurd ((Text.startsWithRun_iff _ _ _ _).mp hrun).1 hne

end QuickFix.Rule
