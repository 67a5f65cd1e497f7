import QuickFix.Proofs.Command.Echo

/-!
# Answers that are read again

What a run prints is a text that a JSON reader takes, and its value is the array of the run's items,
up to the order of members (`run_answer_read_back`). Only the data of diagnostics ask for something:
they are printed as they came, so they must hold no double, and they stand deeper in an answer than
in the report.

Each record that is printed is `Legible`, from positions up to the items of an answer. The levels
count the containers from the data of a diagnostic on.
-/

set_option autoImplicit false

namespace QuickFix

open Json (Legible)

variable {levels : Nat}

/-! ## Records that are printed -/

/-- Whole numbers are legible at any depth. -/
theorem legible_ofInt (i : Int) : Legible levels (.ofInt i) := by
  cases i with
  | ofNat n => exact .natural _
  | negSucc n => exact .negative _

/-- A position is one container. -/
theorem Position.legible_toJson (p : Position) : Legible (levels + 1) p.toJson := by
  refine .object ?_
  simp only [List.forall_mem_cons]
  exact ⟨.natural _, .natural _, nofun⟩

/-- A range holds positions. -/
theorem Range.legible_toJson (r : Range) : Legible (levels + 2) r.toJson := by
  refine .object ?_
  simp only [List.forall_mem_cons]
  exact ⟨r.start.legible_toJson, r.stop.legible_toJson, nofun⟩

/-- An edit holds a range. -/
theorem Edit.legible_toJson (e : Edit) : Legible (levels + 3) e.toJson := by
  refine .object ?_
  simp only [List.forall_mem_cons]
  exact ⟨e.range.legible_toJson, .string _, nofun⟩

/-- The changes of files hold the edits of each file in a list. -/
theorem legible_changesJson (changes : List (Uri × List Edit)) :
    Legible (levels + 6) (changesJson changes) := by
  refine .object ?_
  simp only [List.forall_mem_cons]
  refine ⟨.object ?_, nofun⟩
  simp only [List.forall_mem_map]
  rintro ⟨uri, edits⟩ -
  refine .array ?_
  simp only [List.forall_mem_map]
  exact fun e _ => e.legible_toJson

/-- The code of a diagnostic is no container. -/
theorem DiagnosticCode.legible_toJson (c : DiagnosticCode) : Legible levels c.toJson := by
  cases c with
  | number n => exact legible_ofInt n.toInt
  | name s => exact .string s

/-- A further place holds a location, and that a range. -/
theorem RelatedInformation.legible_toJson (r : RelatedInformation) :
    Legible (levels + 4) r.toJson := by
  have hlocation : Legible (levels + 3) r.location.toJson := by
    refine .object ?_
    simp only [List.forall_mem_cons]
    exact ⟨.string _, r.location.range.legible_toJson, nofun⟩
  refine .object ?_
  simp only [List.forall_mem_cons]
  exact ⟨hlocation, .string _, nofun⟩

/-- A field that may be missing is legible if its value is. -/
theorem legible_optionalMember {α : Type} {name : String} {encode : α → Json} {o : Option α}
    (h : ∀ a, o = some a → Legible levels (encode a)) :
    ∀ m ∈ optionalMember name encode o, Legible levels m.2 := by
  cases o with
  | none => nofun
  | some a => exact List.forall_mem_singleton.mpr (h a rfl)

/-- A diagnostic is legible if its data are; its other members are nested five deep at most. -/
theorem Diagnostic.legible_toJson {d : Diagnostic}
    (h : ∀ v, d.data = some v → Legible (levels + 5) v) : Legible (levels + 6) d.toJson := by
  refine .object ?_
  simp only [List.forall_mem_append, List.forall_mem_singleton]
  refine ⟨⟨⟨⟨⟨⟨⟨⟨d.range.legible_toJson, ?_⟩, ?_⟩, ?_⟩, ?_⟩, .string _⟩, ?_⟩, ?_⟩, ?_⟩
  · exact legible_optionalMember fun n _ => legible_ofInt n.toInt
  · exact legible_optionalMember fun c _ => c.legible_toJson
  · exact legible_optionalMember fun u _ => .object (List.forall_mem_singleton.mpr (.string _))
  · exact legible_optionalMember fun s _ => .string s
  · refine legible_optionalMember fun rs _ => .array ?_
    simp only [List.forall_mem_map]
    exact fun r _ => r.legible_toJson
  · refine legible_optionalMember fun ns _ => .array ?_
    simp only [List.forall_mem_map]
    exact fun n _ => legible_ofInt n.toInt
  · exact legible_optionalMember h

/-- An action is legible if the data of its diagnostics are. -/
theorem Action.legible_toJson {a : Action}
    (h : ∀ d ∈ a.diagnostics, ∀ v, d.data = some v → Legible (levels + 5) v) :
    Legible (levels + 8) a.toJson := by
  have hdiagnostics : Legible (levels + 7) (.array (a.diagnostics.map Diagnostic.toJson)) := by
    refine .array ?_
    simp only [List.forall_mem_map]
    exact fun d hd => Diagnostic.legible_toJson (h d hd)
  refine .object ?_
  simp only [List.forall_mem_append, List.forall_mem_singleton]
  refine ⟨⟨⟨⟨.string _, legible_optionalMember fun s _ => .string s⟩, ?_⟩, ?_⟩, ?_⟩
  · split
    · nofun
    · exact List.forall_mem_singleton.mpr hdiagnostics
  · split
    · nofun
    · exact List.forall_mem_singleton.mpr (legible_changesJson a.changes)
  · split
    · exact List.forall_mem_singleton.mpr (.bool true)
    · nofun

namespace Command

/-! ## Answers -/

/-- An item of an answer is legible if the data of its diagnostics are. -/
theorem legible_itemJson {e : Entry}
    (h : ∀ d ∈ e.action.diagnostics, ∀ v, d.data = some v → Legible (levels + 5) v)
    (cursor : Option Position) : Legible (levels + 7 + actionDepth cursor) (itemJson cursor e) := by
  have haction : Legible (levels + 8) e.action.toJson := Action.legible_toJson h
  cases cursor with
  | some p => exact haction
  | none =>
      refine .object ?_
      simp only [List.forall_mem_cons]
      exact ⟨e.range.legible_toJson, haction, nofun⟩

/-- The printed text of legible items is read as the array of these items. -/
theorem parse_arrayText {items : List Json} (h : ∀ v ∈ items, Legible (Json.deepest - 1) v)
    (pretty : Bool) :
    Json.parse (arrayText pretty items).toList = .ok (.array (items.map Json.ordered)) := by
  have hfeed : Json.Gap ['\n'] := by simp [Json.Gap, Json.isSpace]
  have hparse := Json.parse_write (spaced_layout pretty) (.array h) hfeed
  rw [Json.ordered_array] at hparse
  rw [arrayText, Json.render, String.toList_append, String.toList_ofList]
  exact hparse

/-- **What is printed is read as what was found.** Let a run succeed on a report whose data hold no
double and are not nested too deep for an answer. The text that it prints is a JSON text, and its
value is the array of the run's items, up to the order of members: in both layouts, and with a
cursor as without. -/
theorem run_answer_read_back {s : Surroundings} {arguments : List Argument} {o : Options}
    {report : Report} {uri : Uri} (hparse : Options.parse arguments = .ok o)
    (hloads : Loads s o report uri)
    (hdata : ∀ d ∈ report.diagnostics, ∀ v, d.data = some v →
      Legible (Json.deepest - 3 - actionDepth o.cursor) v)
    (hsuccess : (run s arguments).success = true) :
    ∃ items, answer (Catalog.empty.surveyAll uri report.diagnostics).1 uri o.cursor =
        .array items ∧
      Json.parse (run s arguments).stdout.toList = .ok (.array (items.map Json.ordered)) := by
  obtain ⟨hstdout, ⟨filter, hfilter⟩, -⟩ := exists_loads_of_success hparse hsuccess
  obtain ⟨es, hes, hanswer⟩ := exists_entries_answer
    (Catalog.empty.surveyAll uri report.diagnostics).1 uri o.cursor
  have hprinted : (run s arguments).stdout = arrayText o.pretty (es.map (itemJson o.cursor)) := by
    rw [(hloads.run_eq hparse hfilter hstdout).2, answerText, hanswer]
    rfl
  -- what an action is nested in differs with the cursor, and so does the room for data
  obtain ⟨levels, hroom, hitem⟩ : ∃ levels,
      Json.deepest - 3 - actionDepth o.cursor = levels + 5 ∧
      Json.deepest - 1 = levels + 7 + actionDepth o.cursor := by
    cases o.cursor with
    | none => exact ⟨117, rfl, rfl⟩
    | some p => exact ⟨118, rfl, rfl⟩
  refine ⟨_, hanswer, ?_⟩
  rw [hprinted]
  apply parse_arrayText
  simp only [List.forall_mem_map]
  intro e he
  obtain ⟨d, hd, hentry⟩ := Catalog.mem_entries_surveyAll (hes e he)
  rw [hitem]
  apply legible_itemJson
  rw [Site.diagnostics_of_mem_entries hentry]
  exact List.forall_mem_singleton.mpr fun v hv => hroom ▸ hdata d hd v hv

end Command

end QuickFix
