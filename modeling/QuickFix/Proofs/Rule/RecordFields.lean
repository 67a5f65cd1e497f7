import QuickFix.Proofs.Concatenation
import QuickFix.Proofs.Rule.Basic

/-!
# Placeholders for missing record fields

What the rule reads from a message and what its fix does to a file. `ListsFields` says which names a
message lists, in terms of how its lines are laid out, and `fix?_missingRecordFields_iff` that the
rule answers exactly if there are some. The layout statement is about the file: in a record over
several lines each name gets a line of its own, two columns further in than the closing brace, and
the brace stays in its column.
-/

set_option autoImplicit false

namespace QuickFix.Rule

open Text (units lineFeed space)

/-- The names that lines list from the trigger on: the words behind the trigger, and then those of
each line below it. -/
def ListsFields (lines : List (List Char)) (i : Nat) (fields : List (List Char)) : Prop :=
  ∃ line rest, lines[i]? = some line ∧
    Text.trim line = "Some record fields are undefined:".toList ++ rest ∧
    Concatenation Text.Worded (rest :: lines.drop (i + 1)) fields

/-- The names behind a trigger and below it are the collected ones. -/
theorem concatenation_worded_iff (rest : List Char) (below fields : List (List Char)) :
    Concatenation Text.Worded (rest :: below) fields ↔ fields = listedFields rest below := by
  rw [concatenation_iff_eq_flatMap Text.worded_iff, List.flatMap_cons]
  rfl

/-- Lines list one sequence of names only. -/
theorem ListsFields.unique {lines : List (List Char)} {i : Nat} {fields others : List (List Char)}
    (h : ListsFields lines i fields) (h' : ListsFields lines i others) : fields = others := by
  obtain ⟨line, rest, hline, htrigger, hfields⟩ := h
  obtain ⟨line', rest', hline', htrigger', hothers⟩ := h'
  have heq : line = line' := by
    rw [hline] at hline'
    exact Option.some.inj hline'
  subst heq
  have hrest : rest = rest' := List.append_cancel_left (htrigger.symm.trans htrigger')
  subst hrest
  rw [(concatenation_worded_iff _ _ _).mp hfields, (concatenation_worded_iff _ _ _).mp hothers]

/-- A record's placeholders are proposed exactly if the line has the trigger and a name is listed
behind it or below it. -/
theorem recordFields_eq_some_iff (range : Range) (line : List Char) (below : List (List Char))
    (p : Proposal) :
    recordFields range line below = some p ↔
      ∃ rest, Text.trim line = "Some record fields are undefined:".toList ++ rest ∧
        listedFields rest below ≠ [] ∧
        p = ⟨"Add missing record fields",
          [range.insertBeforeLast (String.ofList (fieldsText range (listedFields rest below)))]⟩ :=
  collecting_eq_some_iff "Some record fields are undefined:" line (listedFields · below)
    (fun fields => ⟨"Add missing record fields",
      [range.insertBeforeLast (String.ofList (fieldsText range fields))]⟩) p

/-- The rule answers exactly on a line from which on names are listed, at least one, and then
inserts their placeholders before the last character of the range. -/
theorem fix?_missingRecordFields_iff (site : Site) (i : Nat) (action : Action) :
    missingRecordFields.fix? site i = some action ↔
      ∃ fields, ListsFields site.lines i fields ∧ fields ≠ [] ∧
        action = Proposal.toAction ⟨"Add missing record fields",
          [site.range.insertBeforeLast (String.ofList (fieldsText site.range fields))]⟩
            site.uri site.diagnostic := by
  rw [fix?_eq_some_iff_onLine?]
  constructor
  · rintro ⟨line, p, hline, hp, rfl⟩
    obtain ⟨rest, htrigger, hne, rfl⟩ := (recordFields_eq_some_iff _ _ _ _).mp hp
    exact ⟨_, ⟨line, rest, hline, htrigger, (concatenation_worded_iff _ _ _).mpr rfl⟩, hne, rfl⟩
  · rintro ⟨fields, ⟨line, rest, hline, htrigger, hfields⟩, hne, rfl⟩
    have hlisted := (concatenation_worded_iff _ _ _).mp hfields
    subst hlisted
    exact ⟨line, _, hline, (recordFields_eq_some_iff _ _ _ _).mpr ⟨rest, htrigger, hne, rfl⟩, rfl⟩

/-! ## The file after the fix -/

/-- The line of one placeholder, without its indentation. -/
def placeholder (field : List Char) : List Char :=
  field ++ ": assert false,".toList

/-- A placeholder on a line of its own is its indentation, itself and a line feed. -/
theorem fieldLine_eq (pad field : List Char) :
    fieldLine pad field = (pad ++ placeholder field) ++ ['\n'] := by
  unfold fieldLine placeholder
  simp

/-- The text for a record over several lines: a line for each field, two columns further in than the
brace, and the padding of the brace. The first line lacks the brace's column, which stands before it
in the file already. -/
theorem units_fieldsText {range : Range} {c : Nat} (first : List Char) (more : List (List Char))
    (hspan : range.start.line ≠ range.stop.line)
    (hcolumn : range.stop.character.toNat = c + 1) (hbound : c + 2 ≤ 4294967295) :
    units (fieldsText range (first :: more)) =
      [lineFeed].intercalate (units ("  ".toList ++ placeholder first) ::
        more.map (fun f => List.replicate (c + 2) space ++ units (placeholder f)) ++
          [List.replicate c space]) := by
  have hpad := units_padding_closing hcolumn
  -- the column of the fields is not cut off at the greatest word
  have hinner : (wordAfter range.closing.character 2).toNat = c + 2 := by
    rw [toNat_wordAfter, Range.toNat_closing_character hcolumn]
    exact Nat.min_eq_left hbound
  have hfieldPad : units (padding (wordAfter range.closing.character 2)) =
      List.replicate (c + 2) space := by
    rw [padding, hinner, Text.units_replicate_space]
  rw [intercalate_append_cons, List.intercalate_singleton, List.flatMap_cons, List.flatMap_map]
  unfold fieldsText
  rw [if_neg hspan]
  simp only [fieldLine_eq, Text.units_append, Text.units_flatMap, hpad, hfieldPad]
  rfl

/-- A listed name holds something, and no blank. -/
theorem ListsFields.of_mem {lines : List (List Char)} {i : Nat} {names : List (List Char)}
    (h : ListsFields lines i names) {name : List Char} (hname : name ∈ names) :
    name ≠ [] ∧ ∀ c ∈ name, Text.isBlank c = false := by
  obtain ⟨line, rest, -, -, hnames⟩ := h
  rw [concatenation_iff_eq_flatMap Text.worded_iff] at hnames
  rw [hnames] at hname
  obtain ⟨text, -, hword⟩ := List.mem_flatMap.mp hname
  refine ⟨?_, fun c hc => Text.not_isBlank_of_mem_words hword hc⟩
  simpa using (List.mem_filter.mp hword).2

/-- Listed names hold no line feed, since it is a blank. -/
theorem ListsFields.lineFeed_not_mem {lines : List (List Char)} {i : Nat}
    {fields : List (List Char)} (h : ListsFields lines i fields) {field : List Char}
    (hfield : field ∈ fields) : '\n' ∉ field := by
  intro hmem
  exact absurd ((h.of_mem hfield).2 _ hmem) (by decide)

/-- **Layout of the placeholders.** In a file whose last line of the range reads `c` spaces up to
the closing brace, the fix puts a line for each listed name, in the order of the message and `c + 2`
columns in, before that line, and changes nothing else. -/
theorem lines_edited_recordFields (site : Site) (i : Nat) (action : Action)
    (fields : List (List Char)) (c : Nat) (doc : Document) (before after : List (List UInt16))
    (rest : List UInt16)
    (hspan : site.range.start.line < site.range.stop.line)
    (hanswer : missingRecordFields.fix? site i = some action)
    (hfields : ListsFields site.lines i fields)
    (hcolumn : site.range.stop.character.toNat = c + 1) (hbound : c + 2 ≤ 4294967295)
    (hline : before.length = site.range.stop.line.toNat)
    (hdoc : doc.lines = before ++ (List.replicate c space ++ rest) :: after) :
    ∃ edit, action.changes = [(site.uri, [edit])] ∧
      (doc.edited edit).lines =
        before ++ fields.map (fun f => List.replicate (c + 2) space ++ units (placeholder f)) ++
          (List.replicate c space ++ rest) :: after := by
  obtain ⟨fields', hfields', hne, rfl⟩ := (fix?_missingRecordFields_iff site i action).mp hanswer
  have hsame := hfields.unique hfields'
  subst hsame
  obtain ⟨first, more, rfl⟩ := List.exists_cons_of_ne_nil hne
  refine ⟨_, rfl, ?_⟩
  have hspan' : site.range.start.line ≠ site.range.stop.line := UInt32.ne_of_lt hspan
  have htext := units_fieldsText first more hspan' hcolumn hbound
  have hplaceholder : ∀ f ∈ first :: more, lineFeed ∉ units (placeholder f) := by
    intro f hf
    apply Text.lineFeed_not_mem_units
    have hname := hfields.lineFeed_not_mem hf
    simp [placeholder, hname]
  have hinsertion := doc.lines_edited_insertion hdoc site.range.closing hline
    (by rw [List.length_replicate, Range.toNat_closing_character hcolumn])
    (by rw [String.toList_ofList, htext])
    (by
      rw [Text.units_append, List.mem_append, not_or]
      exact ⟨by decide, hplaceholder first List.mem_cons_self⟩)
    (by
      intro line hmem
      obtain ⟨f, hf, rfl⟩ := List.mem_map.mp hmem
      rw [List.mem_append, not_or]
      exact ⟨Text.lineFeed_not_mem_spaces _, hplaceholder f (List.mem_cons_of_mem _ hf)⟩)
    (Text.lineFeed_not_mem_spaces c)
  -- the brace's column and the two spaces before the first name make its indentation
  have hfirst : List.replicate c space ++ units ("  ".toList ++ placeholder first) =
      List.replicate (c + 2) space ++ units (placeholder first) := by
    have htwo : units "  ".toList = List.replicate 2 space := rfl
    rw [Text.units_append, htwo, ← List.append_assoc, List.replicate_append_replicate]
  rw [hfirst] at hinsertion
  exact hinsertion

/-- Two names, one behind the trigger and one below it, and a brace in column 2. -/
theorem lines_edited_recordFields_two_fields :
    ∃ (site : Site) (action : Action) (doc : Document) (edit : Edit),
      site.range = ⟨⟨0, 8⟩, ⟨1, 3⟩⟩ ∧
      site.lines = ["  Some record fields are undefined: a".toList, "b".toList] ∧
      missingRecordFields.fix? site 0 = some action ∧
      doc.lines = [units "let r = \x7b".toList, units "  \x7d".toList] ∧
      action.changes = [(site.uri, [edit])] ∧
      (doc.edited edit).lines = [units "let r = \x7b".toList, units "    a: assert false,".toList,
        units "    b: assert false,".toList, units "  \x7d".toList] := by
  let site : Site :=
    .bare ["  Some record fields are undefined: a".toList, "b".toList] ⟨⟨0, 8⟩, ⟨1, 3⟩⟩
  let doc : Document := ⟨[units "let r = \x7b".toList, units "  \x7d".toList], by decide⟩
  have hfields : ListsFields site.lines 0 ["a".toList, "b".toList] :=
    ⟨_, " a".toList, rfl, by decide, (concatenation_worded_iff _ _ _).mpr (by decide)⟩
  obtain ⟨action, hanswer⟩ : ∃ action, missingRecordFields.fix? site 0 = some action :=
    ⟨_, (fix?_missingRecordFields_iff site 0 _).mpr ⟨_, hfields, by simp, rfl⟩⟩
  obtain ⟨edit, hedit, hlines⟩ := lines_edited_recordFields site 0 action _ 2 doc
    [units "let r = \x7b".toList] [] (units "\x7d".toList) (by decide) hanswer hfields rfl
    (by decide) rfl rfl
  exact ⟨site, action, doc, edit, rfl, rfl, hanswer, rfl, hedit, hlines⟩

end QuickFix.Rule
