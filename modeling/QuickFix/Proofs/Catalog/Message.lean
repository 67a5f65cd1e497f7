import QuickFix.Proofs.Catalog.History
import QuickFix.Proofs.Rule.Respacing
import QuickFix.Proofs.Rule.Trigger

/-!
# The lines of a message

A diagnostic's message is cut into lines, and cutting loses some of what was joined: a carriage
return before a line feed, and an empty last line. This file says that a survey does not see the
loss. `Text.Joined` describes how lines make a message, and `Text.Joined.map_trim_lines` how far
cutting gives them back: up to blanks at their ends and an empty line at the end. Rules see neither,
by `Rule.fix?_of_map_trim_eq` and `Rule.fix?_concat_nil`, and the entries of a site are determined
by the rules' answers, however many lines there are (`Site.entries_eq_of_fix?_eq`).
-/

set_option autoImplicit false

namespace QuickFix

/-! ## Joining and cutting -/

namespace Text

/-- What ends a line in a message. -/
def LineEnd (s : List Char) : Prop :=
  s = ['\n'] ∨ s = ['\r', '\n']

/-- A text made of lines with line ends between them; there may be one behind the last line. -/
inductive Joined : List (List Char) → List Char → Prop
  | none : Joined [] []
  | last (line : List Char) : Joined [line] line
  | ended {line stop text : List Char} {more : List (List Char)} :
      LineEnd stop → Joined more text → Joined (line :: more) (line ++ stop ++ text)

/-- A line feed ends the first line, which loses its carriage return. -/
theorem lines_append_lineFeed {line : List Char} (h : '\n' ∉ line) (text : List Char) :
    lines (line ++ '\n' :: text) = dropReturn line :: lines text := by
  have hpieces : pieces (· == '\n') text ≠ [] := by
    rw [pieces_eq_splitOnP]
    exact List.splitOnP_ne_nil _ _
  obtain ⟨first, more, hcut⟩ := List.exists_cons_of_ne_nil hpieces
  unfold lines
  rw [pieces_append_cons _ line text rfl, pieces_eq_singleton_of_not_mem h, hcut]
  rfl

/-- The carriage return at the end of a line is dropped. -/
theorem dropReturn_concat (line : List Char) : dropReturn (line ++ ['\r']) = line := by
  simp [dropReturn]

/-- A line is trimmed to the same text with its carriage return and without. -/
theorem trim_dropReturn (line : List Char) : trim (dropReturn line) = trim line := by
  unfold dropReturn
  split
  · rename_i hlast
    obtain ⟨front, rfl⟩ := List.getLast?_eq_some_iff.mp hlast
    have hreturn : ∀ c ∈ ['\r'], isBlank c = true := by simp [isBlank]
    rw [List.dropLast_concat, trim_append_blanks hreturn]
  · rfl

/-- Cutting a text gives back its lines up to the blanks at their ends, apart from an empty last
line without a line end. -/
theorem Joined.map_trim_lines {ls : List (List Char)} {text : List Char} (h : Joined ls text)
    (hfeed : ∀ line ∈ ls, '\n' ∉ line) :
    (lines text).map trim = ls.map trim ∨ (lines text).map trim ++ [[]] = ls.map trim := by
  induction h with
  | none => exact .inl rfl
  | last line =>
      have hcut : lines line = if line.isEmpty then [] else [line] := by
        unfold lines
        rw [pieces_eq_singleton_of_not_mem (hfeed line List.mem_cons_self)]
        rfl
      cases line with
      | nil => exact .inr rfl
      | cons c line =>
          rw [hcut]
          exact .inl rfl
  | @ended line stop text more hstop _ ih =>
      have hline : '\n' ∉ line := hfeed line List.mem_cons_self
      have hmore := ih fun l hl => hfeed l (List.mem_cons_of_mem line hl)
      -- with either line end, cutting takes off at most carriage returns
      have hcut : ∃ first, lines (line ++ stop ++ text) = first :: lines text ∧
          trim first = trim line := by
        rcases hstop with rfl | rfl
        · refine ⟨dropReturn line, ?_, trim_dropReturn line⟩
          rw [List.append_assoc]
          exact lines_append_lineFeed hline text
        · refine ⟨line, ?_, rfl⟩
          have hreturn : '\n' ∉ line ++ ['\r'] := by simp [hline]
          have hsplit : line ++ ['\r', '\n'] ++ text = (line ++ ['\r']) ++ '\n' :: text := by simp
          rw [hsplit, lines_append_lineFeed hreturn, dropReturn_concat]
      obtain ⟨first, hlines, htrim⟩ := hcut
      rw [hlines, List.map_cons, List.map_cons, htrim]
      rcases hmore with hsame | hshort
      · exact .inl (by rw [hsame])
      · exact .inr (by rw [List.cons_append, hshort])

end Text

/-! ## An empty line at the end -/

namespace Rule

/-- An empty line at the end lists no field. -/
theorem listedFields_concat_nil (rest : List Char) (below : List (List Char)) :
    listedFields rest (below ++ [[]]) = listedFields rest below := by
  have hempty : Text.words [] = [] := rfl
  simp [listedFields, hempty]

/-- An empty line at the end shows no value. -/
theorem patterns_concat_nil (below : List (List Char)) :
    patterns (below ++ [[]]) = patterns below := by
  have hempty : (alternatives []).filterMap pattern? = [] := rfl
  simp [patterns, hempty]

/-- No rule depends on an empty line at the end. -/
theorem onLine?_concat_nil (rule : Rule) (range : Range) (line : List Char)
    (above : Option (List Char)) (below : List (List Char)) :
    rule.onLine? range line above (below ++ [[]]) = rule.onLine? range line above below := by
  cases rule with
  | missingRecordFields =>
      rw [onLine?, onLine?, recordFields, recordFields]
      simp only [listedFields_concat_nil]
  | missingMatchCases => rw [onLine?, onLine?, matchCases, matchCases, patterns_concat_nil]
  | _ => rfl

/-- No rule sees an empty line behind the others: it has no trigger, no words and no values. -/
theorem propose?_concat_nil (rule : Rule) (range : Range) (lines : List (List Char)) (i : Nat) :
    rule.propose? range (lines ++ [[]]) i = rule.propose? range lines i := by
  by_cases hi : i < lines.length
  · have hbelow : (lines ++ [[]]).drop (i + 1) = lines.drop (i + 1) ++ [[]] :=
      List.drop_append_of_le_length hi
    rw [propose?_eq_bind, propose?_eq_bind, List.getElem?_append_left hi, hbelow,
      above?_append hi]
    exact Option.bind_congr fun line _ => onLine?_concat_nil rule range line _ _
  · rw [rule.propose?_eq_none_of_length_le range (Nat.le_of_not_lt hi)]
    by_contra hsome
    obtain ⟨p, hp⟩ := Option.ne_none_iff_exists'.mp hsome
    obtain ⟨line, rest, hline, htrim⟩ := exists_trigger_of_propose? hp
    rw [List.getElem?_append_right (by omega)] at hline
    obtain rfl : line = [] := List.mem_singleton.mp (List.mem_of_getElem? hline)
    have hstart : rule.trigger.toList ++ rest = [] := htrim.symm
    exact rule.trigger_ne_nil (List.append_eq_nil_iff.mp hstart).1

/-- No fix depends on an empty line at the end. -/
theorem fix?_concat_nil (rule : Rule) (site : Site) (i : Nat) :
    rule.fix? { site with lines := site.lines ++ [[]] } i = rule.fix? site i := by
  unfold fix?
  rw [propose?_concat_nil]

end Rule

/-! ## Surveys -/

/-- Indices beyond the last line add nothing to the entries of a site. -/
theorem Site.entries_eq_filterMap_range (site : Site) {n : Nat} (h : site.lines.length ≤ n) :
    site.entries = (List.range n).filterMap fun i =>
      (site.answer? i).map fun r => ⟨site.range, r.2⟩ := by
  obtain ⟨k, rfl⟩ := Nat.exists_eq_add_of_le h
  have hbeyond : ((List.range k).map (site.lines.length + ·)).filterMap (fun i =>
      (site.answer? i).map fun r => (⟨site.range, r.2⟩ : Entry)) = [] := by
    rw [List.filterMap_eq_nil_iff]
    intro i hi
    obtain ⟨j, -, rfl⟩ := List.mem_map.mp hi
    have hnone : site.answer? (site.lines.length + j) = none := by
      rw [Site.answer?_eq_none_iff]
      intro rule _
      exact rule.fix?_eq_none_of_length_le (Nat.le_add_right _ _)
    rw [hnone]
    rfl
  rw [List.range_add, List.filterMap_append, hbeyond, List.append_nil, Site.entries, Site.answers,
    List.filterMap_map]
  rfl

/-- The entries of a site are determined by the rules' answers. -/
theorem Site.entries_eq_of_fix?_eq {site other : Site} (hrange : site.range = other.range)
    (h : ∀ (rule : Rule) i, rule.fix? site i = rule.fix? other i) :
    site.entries = other.entries := by
  have hanswer : ∀ i, site.answer? i = other.answer? i := by
    intro i
    unfold Site.answer?
    simp only [h]
  rw [site.entries_eq_filterMap_range (Nat.le_max_left _ other.lines.length),
    other.entries_eq_filterMap_range (Nat.le_max_right site.lines.length _), hrange]
  simp only [hanswer]

/-- **A message and its lines.** Surveying a diagnostic whose message is made of lines does the same
to a catalog, and answers the same number, as surveying these lines with the diagnostic's range,
whichever line ends join them and whatever is empty or ends with carriage returns among them. -/
theorem Catalog.survey_ofDiagnostic_eq (c : Catalog) (d : Diagnostic) (uri : Uri)
    (lines : List (List Char)) (hfeed : ∀ line ∈ lines, '\n' ∉ line)
    (hmessage : Text.Joined lines d.message.toList) :
    c.survey (Site.ofDiagnostic d uri) = c.survey ⟨d, lines, uri, d.range⟩ := by
  have hfix : ∀ (rule : Rule) i,
      rule.fix? (Site.ofDiagnostic d uri) i = rule.fix? ⟨d, lines, uri, d.range⟩ i := by
    intro rule i
    let site := Site.ofDiagnostic d uri
    show rule.fix? site i = rule.fix? { site with lines := lines } i
    rcases hmessage.map_trim_lines hfeed with hsame | hshort
    · exact (rule.fix?_of_map_trim_eq site i hsame.symm).symm
    · -- the message has lost an empty last line, which can be put back
      let restored : Site := { site with lines := site.lines ++ [[]] }
      have htrim : lines.map Text.trim = restored.lines.map Text.trim := by
        rw [← hshort, List.map_append]
        rfl
      exact (rule.fix?_concat_nil site i).symm.trans
        (rule.fix?_of_map_trim_eq restored i htrim).symm
  have hentries : (Site.ofDiagnostic d uri).entries = Site.entries ⟨d, lines, uri, d.range⟩ :=
    Site.entries_eq_of_fix?_eq rfl hfix
  unfold Catalog.survey
  rw [hentries]
  rfl

/-- Lines joined by both line ends, with a carriage return of their own and an empty line at the
end. -/
theorem Catalog.survey_ofDiagnostic_eq_mixed :
    ∃ (d : Diagnostic) (uri : Uri) (lines : List (List Char)),
      d.message.toList = "Some record fields are undefined:\r\na\r\nb\n".toList ∧
      lines = ["Some record fields are undefined:".toList, "a\r".toList, "b".toList, []] ∧
      (∀ line ∈ lines, '\n' ∉ line) ∧ Text.Joined lines d.message.toList ∧
      Catalog.empty.survey (Site.ofDiagnostic d uri) =
        Catalog.empty.survey ⟨d, lines, uri, d.range⟩ ∧
      (Catalog.empty.survey (Site.ofDiagnostic d uri)).2 = 1 := by
  let d : Diagnostic :=
    { range := ⟨⟨0, 0⟩, ⟨0, 3⟩⟩
      message := "Some record fields are undefined:\r\na\r\nb\n" }
  let lines := ["Some record fields are undefined:".toList, "a\r".toList, "b".toList, []]
  have hfeed : ∀ line ∈ lines, '\n' ∉ line := by decide
  have hmessage : Text.Joined lines d.message.toList := by
    have htext : d.message.toList = "Some record fields are undefined:".toList ++ ['\r', '\n'] ++
        ("a\r".toList ++ ['\n'] ++ ("b".toList ++ ['\n'] ++ [])) := by decide
    rw [htext]
    exact .ended (.inr rfl) (.ended (.inl rfl) (.ended (.inl rfl) (.last [])))
  exact ⟨d, ⟨"a", by decide⟩, lines, rfl, rfl, hfeed, hmessage,
    Catalog.survey_ofDiagnostic_eq Catalog.empty d _ lines hfeed hmessage, by decide⟩

end QuickFix
