import QuickFix.Proofs.Catalog.History
import QuickFix.Proofs.Command.Cursor
import QuickFix.Proofs.Diagnostic.RoundTrip
import QuickFix.Proofs.Rule.Basic

/-!
# Diagnostics in what is printed

Every action names the diagnostic that it settles. A run prints it within the action, and what is
printed can be put into a report again: the report is read, and has that one diagnostic
(`run_diagnostics_read_back`).
-/

set_option autoImplicit false

namespace QuickFix

open Json (memberText write)

/-! ## The diagnostic of an action -/

/-- Every action at a site carries that site's diagnostic and no other. -/
theorem Site.diagnostics_of_mem_entries {site : Site} {e : Entry} (he : e ∈ site.entries) :
    e.action.diagnostics = [site.diagnostic] := by
  obtain ⟨answer, hanswer, hentry⟩ := List.mem_filterMap.mp he
  obtain ⟨i, -, rfl⟩ := List.mem_map.mp hanswer
  obtain ⟨⟨rule, action⟩, hanswer, rfl⟩ := Option.map_eq_some_iff.mp hentry
  obtain ⟨-, -, -, -, hfix⟩ := (site.answer?_eq_some_iff i rule action).mp hanswer
  obtain ⟨p, -, rfl⟩ := (rule.fix?_eq_some_iff site i action).mp hfix
  rfl

/-- Every action that a survey offers is offered at the site of one of the diagnostics. -/
theorem Catalog.mem_entries_surveyAll {uri : Uri} {ds : List Diagnostic} {e : Entry}
    (he : e ∈ (Catalog.empty.surveyAll uri ds).1.entries uri) :
    ∃ d ∈ ds, e ∈ (Site.ofDiagnostic d uri).entries := by
  have hentries := (Catalog.surveyAll_foldl uri ds Catalog.empty 0 uri).1
  rw [Catalog.surveyAll, hentries, if_pos rfl] at he
  exact List.mem_flatMap.mp he

/-- An action with diagnostics is written with all of them as one member. -/
theorem Action.diagnostics_infix {a : Action} (h : a.diagnostics ≠ []) (l : Json.Layout)
    (depth : Nat) :
    memberText l.colon "diagnostics"
        (write l (depth + 1) (.array (a.diagnostics.map Diagnostic.toJson))) <:+:
      write l depth a.toJson := by
  let printed : String × Json :=
    ("diagnostics", .array (a.diagnostics.map Diagnostic.toJson))
  have hmember : printed ∈ if a.diagnostics.isEmpty then [] else [printed] := by
    rw [if_neg (by simpa using h)]
    exact List.mem_cons_self
  unfold Action.toJson
  apply Json.memberText_infix_object (m := printed)
  apply List.mem_append_left
  apply List.mem_append_left
  exact List.mem_append_right _ hmember

namespace Command

/-! ## Where actions are printed -/

/-- An entry as it is printed: with its range in the full listing, the action alone at a cursor. -/
def itemJson (cursor : Option Position) (e : Entry) : Json :=
  match cursor with
  | none => entryJson e
  | some _ => e.action.toJson

/-- How many containers stand around an action in what is printed. -/
def actionDepth (cursor : Option Position) : Nat :=
  match cursor with
  | none => 2
  | some _ => 1

/-- Both layouts of the answer put white space only between lexemes. -/
theorem spaced_layout (pretty : Bool) : (layout pretty).Spaced := by
  cases pretty with
  | false => exact Json.Layout.spaced_compact
  | true => exact Json.Layout.spaced_indented

/-- The items of an answer are entries of the file, with a cursor some of them. -/
theorem exists_entries_answer (c : Catalog) (uri : Uri) (cursor : Option Position) :
    ∃ es : List Entry, (∀ e ∈ es, e ∈ c.entries uri) ∧
      answer c uri cursor = .array (es.map (itemJson cursor)) := by
  cases cursor with
  | none => exact ⟨c.entries uri, fun _ he => he, rfl⟩
  | some p =>
      refine ⟨(c.entries uri).filter fun e => e.range.contains p,
        fun e he => (List.mem_filter.mp he).1, ?_⟩
      simp only [answer, Catalog.actionsAt, List.map_map]
      rfl

/-- Every action is written inside the text of the array it is an item of, with a cursor and without
one. -/
theorem action_infix_arrayText {es : List Entry} {e : Entry} (he : e ∈ es)
    (cursor : Option Position) (pretty : Bool) :
    write (layout pretty) (actionDepth cursor) e.action.toJson <:+:
      (arrayText pretty (es.map (itemJson cursor))).toList := by
  have hitem : write (layout pretty) 1 (itemJson cursor e) <:+:
      (arrayText pretty (es.map (itemJson cursor))).toList := by
    have hitems : write (layout pretty) 1 (itemJson cursor e) <:+:
        write (layout pretty) 0 (.array (es.map (itemJson cursor))) :=
      Json.write_infix_array (layout pretty) 0 (List.mem_map_of_mem he)
    simp only [arrayText, Json.render, String.toList_append, String.toList_ofList]
    exact hitems.trans (List.prefix_append _ _).isInfix
  cases cursor with
  | none =>
      have haction : write (layout pretty) 2 e.action.toJson <:+:
          write (layout pretty) 1 (entryJson e) :=
        Json.write_infix_object (layout pretty) 1 (m := ("action", e.action.toJson))
          (List.mem_cons_of_mem _ List.mem_cons_self)
      exact haction.trans hitem
  | some p => exact hitem

/-- The text of an action's diagnostics, as it is printed within the action. -/
def diagnosticsText (o : Options) (a : Action) : List Char :=
  write (layout o.pretty) (actionDepth o.cursor + 1) (.array (a.diagnostics.map Diagnostic.toJson))

/-- **The diagnostics that are printed are those that were read.** Let a run read a report whose
data hold no double. The diagnostics of each action that it prints, put into a report with the same
path, are read again: the report has the one diagnostic that the action was found for, as it was.
The same goes for every diagnostic of the report, however deep in either layout it is printed. -/
theorem run_diagnostics_read_back {s : Surroundings} {arguments : List Argument} {o : Options}
    {report : Report} {uri : Uri} (hparse : Options.parse arguments = .ok o)
    (hloads : Loads s o report uri)
    (hwhole : ∀ d ∈ report.diagnostics, ∀ v, d.data = some v → v.Whole)
    (hsuccess : (run s arguments).success = true) :
    ∃ es : List Entry,
      (run s arguments).stdout = arrayText o.pretty (es.map (itemJson o.cursor)) ∧
      (∀ e ∈ es,
        write (layout o.pretty) (actionDepth o.cursor) e.action.toJson <:+:
          (run s arguments).stdout.toList ∧
        memberText (layout o.pretty).colon "diagnostics" (diagnosticsText o e.action) <:+:
          write (layout o.pretty) (actionDepth o.cursor) e.action.toJson ∧
        ∃ d ∈ report.diagnostics, e ∈ (Site.ofDiagnostic d uri).entries ∧
          readReport
              { s with stdin := .ok (Text.octets
                (documentText report.path (diagnosticsText o e.action))) }
              { o with input := [some '-'] } =
            .ok (⟨report.path, [d]⟩, uri)) ∧
      ∀ d ∈ report.diagnostics, ∀ pretty depth,
        Report.parse (documentText report.path (write (layout pretty) depth (.array [d.toJson]))) =
          .ok ⟨report.path, [d]⟩ := by
  obtain ⟨hstdout, ⟨filter, hfilter⟩, -⟩ := exists_loads_of_success hparse hsuccess
  obtain ⟨text, -, hread⟩ := hloads.document
  have hback : ∀ d ∈ report.diagnostics, ∀ pretty depth,
      Report.parse (documentText report.path (write (layout pretty) depth (.array [d.toJson]))) =
        .ok ⟨report.path, [d]⟩ := by
    intro d hd pretty depth
    apply Report.parse_documentText (spaced_layout pretty) report.path [d]
    · exact List.forall_mem_singleton.mpr (Report.dataDecoded_of_parse hread hd)
    · exact List.forall_mem_singleton.mpr (hwhole d hd)
  obtain ⟨es, hes, hanswer⟩ := exists_entries_answer
    (Catalog.empty.surveyAll uri report.diagnostics).1 uri o.cursor
  rw [(hloads.run_eq hparse hfilter hstdout).2, answerText, hanswer]
  refine ⟨es, rfl, fun e he => ?_, hback⟩
  obtain ⟨d, hd, hentry⟩ := Catalog.mem_entries_surveyAll (hes e he)
  have hdiagnostics : e.action.diagnostics = [d] := Site.diagnostics_of_mem_entries hentry
  have hnonempty : e.action.diagnostics ≠ [] := by simp [hdiagnostics]
  refine ⟨action_infix_arrayText he o.cursor o.pretty,
    Action.diagnostics_infix hnonempty _ _, d, hd, hentry, ?_⟩
  apply Loads.readReport_eq
  refine ⟨⟨_, rfl, ?_⟩, hloads.path⟩
  rw [diagnosticsText, hdiagnostics]
  exact hback d hd _ _

/-- An action for a diagnostic with nested data and characters that are escaped. -/
theorem run_diagnostics_read_back_nested_data :
    ∃ (s : Surroundings) (o : Options) (report : Report) (uri : Uri) (es : List Entry),
      Options.parse [[some '-']] = .ok o ∧ Loads s o report uri ∧
      (∀ d ∈ report.diagnostics, ∀ v, d.data = some v → v.Whole) ∧
      (run s [[some '-']]).success = true ∧ es ≠ [] ∧
      (run s [[some '-']]).stdout = arrayText o.pretty (es.map (itemJson o.cursor)) ∧
      ∀ e ∈ es, ∃ d ∈ report.diagnostics, d.data ≠ none ∧
        readReport
            { s with stdin := .ok (Text.octets
              (documentText report.path (diagnosticsText o e.action))) }
            { o with input := [some '-'] } =
          .ok (⟨report.path, [d]⟩, uri) := by
  let data : Json := .object [("a", .array [.null, .number (.natural 1)]), ("b", .string "\"\t")]
  let d : Diagnostic :=
    { range := ⟨⟨0, 2⟩, ⟨0, 5⟩⟩
      severity := some (-1)
      message := "Some record fields are undefined:\na"
      data := some data }
  let s : Surroundings :=
    ⟨[], .ok (Text.octets (documentText "/a" (write .compact 0 (.array [d.toJson])))),
      fun _ => .error "", .ok (), .ok (), .elsewhere⟩
  have hwhole : data.Whole := by
    refine .object ?_
    simp only [List.forall_mem_cons]
    refine ⟨.array ?_, .string _, nofun⟩
    simp only [List.forall_mem_cons]
    exact ⟨.null, .natural 1, nofun⟩
  have hdecoded : Json.Decoded 124 data := by
    refine .object (by decide +kernel) ?_
    simp only [List.forall_mem_cons]
    refine ⟨.array ?_, .string _, nofun⟩
    simp only [List.forall_mem_cons]
    exact ⟨.null, .number _, nofun⟩
  have hshape : ∀ d' ∈ [d], d'.DataDecoded 124 := by
    refine List.forall_mem_singleton.mpr fun v hv => ?_
    cases hv
    exact ⟨hdecoded, nofun⟩
  have hdata : ∀ d' ∈ [d], ∀ v, d'.data = some v → v.Whole := by
    refine List.forall_mem_singleton.mpr fun v hv => ?_
    cases hv
    exact hwhole
  obtain ⟨uri, huri⟩ : ∃ uri, Uri.ofDocument [] "/a" = .ok uri := by
    have hok : (Uri.ofDocument [] "/a").toBool = true := by decide +kernel
    cases h : Uri.ofDocument [] "/a" with
    | ok uri => exact ⟨uri, rfl⟩
    | error f =>
        rw [h] at hok
        cases hok
  have hloads : Loads s ⟨[some '-'], none, false, "warn", .standard⟩ ⟨"/a", [d]⟩ uri := by
    refine ⟨⟨_, rfl, ?_⟩, huri⟩
    exact Report.parse_documentText Json.Layout.spaced_compact "/a" [d] hshape hdata
  have hfilter : logFilter s ⟨[some '-'], none, false, "warn", .standard⟩ = .ok [] := rfl
  have hsuccess : (run s [[some '-']]).success = true := (hloads.run_eq rfl hfilter rfl).1
  have hsome : (run s [[some '-']]).stdout ≠ arrayText false [] := by decide +kernel
  obtain ⟨es, hprinted, hback, -⟩ := run_diagnostics_read_back rfl hloads hdata hsuccess
  refine ⟨s, _, _, uri, es, rfl, hloads, hdata, hsuccess, ?_, hprinted, fun e he => ?_⟩
  · rintro rfl
    exact hsome hprinted
  · obtain ⟨-, -, d', hd', -, hread⟩ := hback e he
    refine ⟨d', hd', ?_, hread⟩
    cases List.mem_singleton.mp hd'
    nofun

end Command

end QuickFix
