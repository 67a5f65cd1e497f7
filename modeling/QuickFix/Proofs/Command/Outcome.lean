import QuickFix.Command.Run
import QuickFix.Proofs.Command.Options
import QuickFix.Proofs.Octets

/-!
# How a run ends

A run prints all it was asked for, or fails and prints nothing (`run_all_or_nothing`). What it was
asked for is said by `Complete`: the text of a request for help or for the version, or the array of
the answers and a line feed. Why it fails is said by `Fails`, whose causes exclude each other: each
one comes with all that went well before it.

The proof goes through `ends_run`: a run ends in one of the three ways that `Ends` lists.
-/

set_option autoImplicit false

namespace QuickFix.Command

/-- What the source of the input holds. -/
def source (s : Surroundings) (input : Argument) : Except String (List UInt8) :=
  if input = [some '-'] then s.stdin else s.file input

/-- The source of the input, as a report names it. -/
def sourceName (input : Argument) : String :=
  if input = [some '-'] then "<stdin>" else input.shown

/-- A source that is read: its octets are those of a document, and the document's path has a URI. -/
structure Loads (s : Surroundings) (o : Options) (report : Report) (uri : Uri) : Prop where
  document : ∃ text, source s o.input = .ok (Text.octets text) ∧ Report.parse text = .ok report
  path : Uri.ofDocument s.workingDirectory report.path = .ok uri

/-- Why a source is not read. -/
inductive Unloadable (s : Surroundings) (o : Options) : Failure → Prop
  | unreadable {reason : String} : source s o.input = .error reason →
      Unloadable s o (.unreadable (sourceName o.input) reason)
  | notText {os : List UInt8} : source s o.input = .ok os → (∀ text, os ≠ Text.octets text) →
      Unloadable s o (.unreadable (sourceName o.input) "stream did not contain valid UTF-8")
  | malformed {text : List Char} {f : Json.Fault} : source s o.input = .ok (Text.octets text) →
      Report.parse text = .error f → Unloadable s o (.malformed text f)
  | unusablePath {text : List Char} {report : Report} {f : Uri.PathFault} :
      source s o.input = .ok (Text.octets text) → Report.parse text = .ok report →
      Uri.ofDocument s.workingDirectory report.path = .error f →
      Unloadable s o (.unusablePath report.path f)

/-- The input is what its source gives, when that decodes as a whole; otherwise the failure names
the source and the reason. -/
theorem readInput_eq (s : Surroundings) (input : Argument) :
    readInput s input =
      match source s input with
      | .error reason => .error (.unreadable (sourceName input) reason)
      | .ok octets =>
        match Text.whole? (Text.characters octets) with
        | some text => .ok text
        | none => .error (.unreadable (sourceName input) "stream did not contain valid UTF-8") :=
  rfl

/-- A source that gives the encoding of a text is read as that text. -/
theorem readInput_of_source {s : Surroundings} {input : Argument} {text : List Char}
    (h : source s input = .ok (Text.octets text)) : readInput s input = .ok text := by
  have htext := Text.whole?_characters_eq_some_iff.mpr (rfl : Text.octets text = _)
  simp only [readInput_eq, h, htext]

/-- An input that loads is read as its report and its document's URI. -/
theorem Loads.readReport_eq {s : Surroundings} {o : Options} {report : Report} {uri : Uri}
    (h : Loads s o report uri) : readReport s o = .ok (report, uri) := by
  obtain ⟨⟨text, hsource, hparse⟩, hpath⟩ := h
  simp [readReport, readInput_of_source hsource, hparse, hpath, bind, Except.bind, Except.mapError]

/-- An input that cannot be loaded is answered with the failure that says why. -/
theorem Unloadable.readReport_eq {s : Surroundings} {o : Options} {f : Failure}
    (h : Unloadable s o f) : readReport s o = .error f := by
  cases h with
  | unreadable hsource =>
      simp only [readReport, readInput_eq, hsource]
      rfl
  | notText hsource hoctets =>
      have hnone := Option.eq_none_iff_forall_ne_some.mpr fun text htext =>
        hoctets text (Text.whole?_characters_eq_some_iff.mp htext)
      simp only [readReport, readInput_eq, hsource, hnone]
      rfl
  | malformed hsource hparse =>
      simp [readReport, readInput_of_source hsource, hparse, bind, Except.bind, Except.mapError]
  | unusablePath hsource hparse hpath =>
      simp [readReport, readInput_of_source hsource, hparse, hpath, bind, Except.bind,
        Except.mapError]

/-- A source is read, or there is a reason why it is not. -/
theorem loads_or_unloadable (s : Surroundings) (o : Options) :
    (∃ report uri, Loads s o report uri) ∨ ∃ f, Unloadable s o f := by
  cases hsource : source s o.input with
  | error reason => exact .inr ⟨_, .unreadable hsource⟩
  | ok os =>
      by_cases hos : ∃ text, os = Text.octets text
      · obtain ⟨text, rfl⟩ := hos
        cases hparse : Report.parse text with
        | error f => exact .inr ⟨_, .malformed hsource hparse⟩
        | ok report =>
            cases hpath : Uri.ofDocument s.workingDirectory report.path with
            | error f => exact .inr ⟨_, .unusablePath hsource hparse hpath⟩
            | ok uri => exact .inl ⟨report, uri, ⟨text, hsource, hparse⟩, hpath⟩
      · exact .inr ⟨_, .notText hsource fun text htext => hos ⟨text, htext⟩⟩

/-! ## What a run is asked for, and why it fails -/

/-- The text of a request for help or for the version. -/
inductive Told (arguments : List Argument) : String → Prop
  | help {long : Bool} : Options.parse arguments = .error (.help long) →
      Told arguments (if long then longHelp else shortHelp)
  | version : Options.parse arguments = .error .version → Told arguments versionText

/-- Something is told exactly if the command line stops at a request. -/
theorem exists_told_iff_exists_request {arguments : List Argument} :
    (∃ text, Told arguments text) ↔
      ∃ stop, stop.Request ∧ Options.parse arguments = .error stop := by
  constructor
  · rintro ⟨text, h⟩
    cases h with
    | help hparse =>
        refine ⟨_, ?_, hparse⟩
        nofun
    | version hparse =>
        refine ⟨_, ?_, hparse⟩
        nofun
  · rintro ⟨stop, hrequest, hparse⟩
    cases stop with
    | fault f => exact absurd rfl (hrequest f)
    | help long => exact ⟨_, .help hparse⟩
    | version => exact ⟨_, .version hparse⟩

/-- A command line is a request exactly if an argument asks for help or for the version before the
options end, all arguments before it are accepted, and what is pending there can be taken in. -/
theorem exists_told_iff {arguments : List Argument} :
    (∃ text, Told arguments text) ↔ ∃ before a after p stop, arguments = before ++ a :: after ∧
      before.foldlM Progress.step {} = .ok p ∧ [some '-', some '-'] ∉ before ∧
      (∃ q, p.settle = (q, none)) ∧ a.Asks stop := by
  rw [exists_told_iff_exists_request]
  constructor
  · rintro ⟨stop, hrequest, hparse⟩
    obtain ⟨before, a, after, p, harguments⟩ := (Options.parse_eq_request_iff hrequest).mp hparse
    exact ⟨before, a, after, p, stop, harguments⟩
  · rintro ⟨before, a, after, p, stop, harguments⟩
    have hrequest : stop.Request := harguments.2.2.2.2.request
    exact ⟨stop, hrequest,
      (Options.parse_eq_request_iff hrequest).mpr ⟨before, a, after, p, harguments⟩⟩

/-- A command line of which no argument asks for help or for the version is no request. -/
theorem not_told_of_forall {arguments : List Argument} {text : String}
    (h : ∀ a ∈ arguments, ∀ stop, ¬a.Asks stop) : ¬Told arguments text := by
  intro htold
  obtain ⟨before, a, after, p, stop, rfl, -, -, -, hasks⟩ := exists_told_iff.mp ⟨text, htold⟩
  exact h a (by simp) stop hasks

/-- The text of an array, and a line feed. -/
def arrayText (pretty : Bool) (items : List Json) : String :=
  Json.render (layout pretty) (.array items) ++ "\n"

/-- The complete output of a run. -/
inductive Complete (s : Surroundings) (arguments : List Argument) : String → Prop
  | told {text : String} : Told arguments text → Complete s arguments text
  | answered {o : Options} {filter : Log.Filter} {report : Report} {uri : Uri}
      {items : List Json} :
      Options.parse arguments = .ok o → logFilter s o = .ok filter → Loads s o report uri →
      answer (Catalog.empty.surveyAll uri report.diagnostics).1 uri o.cursor = .array items →
      Complete s arguments (arrayText o.pretty items)

/-- Why a run fails. -/
inductive Fails (s : Surroundings) (arguments : List Argument) : Failure → Prop
  | usage {f : UsageFault} :
      Options.parse arguments = .error (.fault f) → Fails s arguments (.usage f)
  | filter {o : Options} {f : Failure} :
      Options.parse arguments = .ok o → logFilter s o = .error f → Fails s arguments f
  | input {o : Options} {filter : Log.Filter} {f : Failure} :
      Options.parse arguments = .ok o → logFilter s o = .ok filter → Unloadable s o f →
      Fails s arguments f
  | unwritable {o : Options} {filter : Log.Filter} {report : Report} {uri : Uri}
      {reason : String} :
      Options.parse arguments = .ok o → logFilter s o = .ok filter → Loads s o report uri →
      s.stdout = .error reason → Fails s arguments (.unwritable reason)

/-- The three ways a run ends. -/
inductive Ends (s : Surroundings) (arguments : List Argument) : Outcome → Prop
  | printed {text : String} {logged : List Log.Event} {format : Log.Format} :
      Complete s arguments text → s.stdout = .ok () →
      Ends s arguments ⟨true, text, logged, format, ""⟩
  | untold {text reason : String} :
      Told arguments text → s.stdout = .error reason →
      Ends s arguments ⟨false, "", [], .standard, ""⟩
  | failed {f : Failure} {logged : List Log.Event} {format : Log.Format} :
      Fails s arguments f → Ends s arguments (failed s format logged f)

/-- The answer is always an array, with a cursor and without one. -/
theorem exists_answer_eq_array (c : Catalog) (uri : Uri) (cursor : Option Position) :
    ∃ items, answer c uri cursor = .array items := by
  cases cursor <;> exact ⟨_, rfl⟩

/-- What is told on request is printed whole, or not at all when the output is closed. -/
theorem ends_say {s : Surroundings} {arguments : List Argument} {text : String}
    (h : Told arguments text) : Ends s arguments (say s text) := by
  cases hstdout : s.stdout with
  | error reason =>
      simp only [say, hstdout]
      exact .untold h hstdout
  | ok _ =>
      simp only [say, hstdout]
      exact .printed (.told h) hstdout

/-- A run on a command line that is accepted ends in one of the ways of `Ends`. -/
theorem ends_execute {s : Surroundings} {arguments : List Argument} {o : Options}
    (hparse : Options.parse arguments = .ok o) : Ends s arguments (execute s o) := by
  cases hfilter : logFilter s o with
  | error f =>
      simp only [execute, hfilter]
      exact .failed (.filter hparse hfilter)
  | ok filter =>
      rcases loads_or_unloadable s o with ⟨report, uri, hloads⟩ | ⟨f, hload⟩
      · obtain ⟨items, hitems⟩ := exists_answer_eq_array
          (Catalog.empty.surveyAll uri report.diagnostics).1 uri o.cursor
        cases hstdout : s.stdout with
        | error reason =>
            simp only [execute, hfilter, hloads.readReport_eq, hstdout]
            exact .failed (.unwritable hparse hfilter hloads hstdout)
        | ok _ =>
            simp only [execute, hfilter, hloads.readReport_eq, hstdout, synthesis, answerText,
              hitems]
            exact .printed (.answered hparse hfilter hloads hitems) hstdout
      · simp only [execute, hfilter, hload.readReport_eq]
        exact .failed (.input hparse hfilter hload)

/-- Every run ends in one of the ways of `Ends`: with a complete text, or with none of it. -/
theorem ends_run (s : Surroundings) (arguments : List Argument) :
    Ends s arguments (run s arguments) := by
  cases hparse : Options.parse arguments with
  | error stop =>
      cases stop with
      | fault f =>
          simp only [run, hparse]
          exact .failed (.usage hparse)
      | help long =>
          simp only [run, hparse]
          exact ends_say (.help hparse)
      | version =>
          simp only [run, hparse]
          exact ends_say (.version hparse)
  | ok o =>
      simp only [run, hparse]
      exact ends_execute hparse

/-- A run that succeeds with its options read its source and could print. -/
theorem exists_loads_of_success {s : Surroundings} {arguments : List Argument} {o : Options}
    (hparse : Options.parse arguments = .ok o) (hsuccess : (run s arguments).success = true) :
    s.stdout = .ok () ∧ (∃ filter, logFilter s o = .ok filter) ∧
      ∃ report uri, Loads s o report uri := by
  have hends := ends_run s arguments
  generalize run s arguments = outcome at hends hsuccess
  cases hends with
  | printed hcomplete hstdout =>
      cases hcomplete with
      | told htold => cases htold <;> simp_all
      | answered hparse' hfilter hloads _ =>
          rw [hparse] at hparse'
          cases hparse'
          exact ⟨hstdout, ⟨_, hfilter⟩, _, _, hloads⟩
  | untold => cases hsuccess
  | failed => cases hsuccess

/-- A run that has an input to load, a filter and an output succeeds and prints the answer. -/
theorem Loads.run_eq {s : Surroundings} {arguments : List Argument} {o : Options}
    {filter : Log.Filter} {report : Report} {uri : Uri} (hloads : Loads s o report uri)
    (hparse : Options.parse arguments = .ok o) (hfilter : logFilter s o = .ok filter)
    (hstdout : s.stdout = .ok ()) :
    (run s arguments).success = true ∧ (run s arguments).stdout =
      answerText (Catalog.empty.surveyAll uri report.diagnostics).1 uri o.cursor o.pretty := by
  simp only [run, hparse, execute, hfilter, hloads.readReport_eq, hstdout, synthesis, and_self]

/-! ## The causes of failure exclude each other -/

variable {s : Surroundings} {arguments : List Argument} {f g : Failure} {text : String}

/-- No input both loads and fails to. -/
theorem Loads.not_unloadable {o : Options} {report : Report} {uri : Uri}
    (h : Loads s o report uri) : ¬Unloadable s o f := by
  intro hf
  have heq := h.readReport_eq
  rw [hf.readReport_eq] at heq
  cases heq

/-- An input that cannot be loaded has one failure. -/
theorem Unloadable.unique {o : Options} (hf : Unloadable s o f) (hg : Unloadable s o g) :
    f = g := by
  have heq := hf.readReport_eq
  rw [hg.readReport_eq] at heq
  exact (Except.error.inj heq).symm

/-- What a run that fails behind the reading of its options has gone through. -/
theorem fails_iff_of_parse {o : Options} (hparse : Options.parse arguments = .ok o) :
    Fails s arguments f ↔ logFilter s o = .error f ∨ (∃ filter, logFilter s o = .ok filter) ∧
      (Unloadable s o f ∨ (∃ report uri, Loads s o report uri) ∧
        ∃ reason, s.stdout = .error reason ∧ f = .unwritable reason) := by
  constructor
  · intro h
    cases h with
    | usage hparse' =>
        rw [hparse] at hparse'
        cases hparse'
    | filter hparse' hfilter =>
        rw [hparse] at hparse'
        cases hparse'
        exact .inl hfilter
    | input hparse' hfilter hload =>
        rw [hparse] at hparse'
        cases hparse'
        exact .inr ⟨⟨_, hfilter⟩, .inl hload⟩
    | unwritable hparse' hfilter hloads hstdout =>
        rw [hparse] at hparse'
        cases hparse'
        exact .inr ⟨⟨_, hfilter⟩, .inr ⟨⟨_, _, hloads⟩, _, hstdout, rfl⟩⟩
  · rintro (hfilter | ⟨⟨filter, hfilter⟩, hload | ⟨⟨report, uri, hloads⟩, reason, hstdout, rfl⟩⟩)
    · exact .filter hparse hfilter
    · exact .input hparse hfilter hload
    · exact .unwritable hparse hfilter hloads hstdout

/-- A run fails for one reason only. -/
theorem Fails.unique (hf : Fails s arguments f) (hg : Fails s arguments g) : f = g := by
  cases hparse : Options.parse arguments with
  | error stop =>
      cases hf with
      | usage hf =>
          cases hg with
          | usage hg =>
              rw [hf] at hg
              cases hg
              rfl
          | _ => simp_all
      | _ => simp_all
  | ok o =>
      rw [fails_iff_of_parse hparse] at hf hg
      rcases hf with hf | ⟨⟨_, hfilter⟩, hf⟩ <;> rcases hg with hg | ⟨⟨_, hfilter'⟩, hg⟩
      · rw [hf] at hg
        exact Except.error.inj hg
      · rw [hf] at hfilter'
        cases hfilter'
      · rw [hg] at hfilter
        cases hfilter
      · rcases hf with hf | ⟨⟨_, _, hloads⟩, reason, hstdout, rfl⟩ <;>
          rcases hg with hg | ⟨⟨_, _, hloads'⟩, reason', hstdout', rfl⟩
        · exact hf.unique hg
        · exact absurd hf hloads'.not_unloadable
        · exact absurd hg hloads.not_unloadable
        · rw [hstdout] at hstdout'
          rw [Except.error.inj hstdout']

/-- A command line that fails asks neither for help nor for the version. -/
theorem Fails.not_told (hf : Fails s arguments f) : ¬Told arguments text := by
  intro htold
  cases htold <;> cases hf <;> simp_all

/-! ## Texts that are never empty -/

/-- A line is never the empty text. -/
theorem append_lineFeed_ne_empty (text : String) : text ++ "\n" ≠ "" := by
  simp

/-- What is told on request is never empty. -/
theorem Told.ne_empty (h : Told arguments text) : text ≠ "" := by
  cases h with
  | @help long _ => cases long <;> decide +kernel
  | version => decide +kernel

/-- A complete answer is never empty, not even when no fix was found. -/
theorem Complete.ne_empty (h : Complete s arguments text) : text ≠ "" := by
  cases h with
  | told h => exact h.ne_empty
  | answered => exact append_lineFeed_ne_empty _

/-- Every fault of a command line has a message. -/
theorem UsageFault.message_ne_empty (f : UsageFault) : f.message ≠ "" := by
  have hshown : (Text.shownFrom .nothing ['e', 'r', 'r', 'o', 'r', ':', ' ']).1 ≠ [] := by decide
  intro hempty
  have htext := congrArg String.toList hempty
  simp [message, Text.visible, Text.visibleFrom, Text.Span.plain] at htext
  exact hshown htext.1

/-- Every failure has a report. -/
theorem Failure.report_ne_empty (f : Failure) : f.report ≠ "" := by
  cases f with
  | usage f => exact f.message_ne_empty
  | _ => exact append_lineFeed_ne_empty _

/-! ## All or nothing -/

/-- What is wrong with the input: its source cannot be read, it is no text, no document or has no
usable path, or the value of `--at` is no cursor. -/
inductive InputError (s : Surroundings) (arguments : List Argument) : Prop
  | unloadable {o : Options} {f : Failure} :
      Options.parse arguments = .ok o → Unloadable s o f → InputError s arguments
  | noCursor {before after : List Argument} {v : Argument} :
      [some '-', some '-'] ∉ before → v.NoCursor →
      arguments = before ++ .ofString "--at" :: v :: after ∨
        arguments = before ++ (.ofString "--at=" ++ v) :: after →
      InputError s arguments

/-- A wrong input is never answered, not even in part, unless help or the version was asked for. -/
theorem InputError.not_answered (h : InputError s arguments)
    (htold : ∀ text, ¬Told arguments text) : ¬Complete s arguments text := by
  intro hcomplete
  cases hcomplete with
  | told h => exact htold _ h
  | answered hparse _ hloads _ =>
      cases h with
      | unloadable hparse' hload =>
          rw [hparse] at hparse'
          cases hparse'
          exact hloads.not_unloadable hload
      | noCursor hbefore hv harguments =>
          rcases harguments with rfl | rfl
          · exact (Options.parse_ne_ok_of_noCursor hbefore hv _).1 hparse
          · exact (Options.parse_ne_ok_of_noCursor hbefore hv _).2 hparse

/-- A run succeeds exactly if it wrote all it was asked for, and then it reports nothing. A run that
fails wrote nothing, and if there is a stream for it, it reports the one reason why it failed,
unless help or version is what could not be written. No error of the input is passed over. -/
theorem run_all_or_nothing (s : Surroundings) (arguments : List Argument) :
    ((run s arguments).success = true ↔
        ∃ text, Complete s arguments text ∧ (run s arguments).stdout = text) ∧
      ((run s arguments).success = true → (run s arguments).report = "") ∧
      ((run s arguments).success = false → (run s arguments).stdout = "" ∧
        (s.stderr = .ok () →
          (∃ text reason, Told arguments text ∧ s.stdout = .error reason ∧
            (run s arguments).report = "") ∨
          (∀ text, ¬Told arguments text) ∧ ∃ f, Fails s arguments f ∧
            (∀ g, Fails s arguments g → g = f) ∧ (run s arguments).report = f.report ∧
            f.report ≠ "")) ∧
      (InputError s arguments → (∀ text, ¬Told arguments text) →
        (run s arguments).success = false ∧ (run s arguments).stdout = "") := by
  have hends := ends_run s arguments
  generalize run s arguments = outcome at hends ⊢
  cases hends with
  | printed hcomplete _ =>
      exact ⟨⟨fun _ => ⟨_, hcomplete, rfl⟩, fun _ => rfl⟩, fun _ => rfl, nofun,
        fun herror htold => absurd hcomplete (herror.not_answered htold)⟩
  | untold htold hstdout =>
      refine ⟨⟨nofun, ?_⟩, nofun, fun _ => ⟨rfl, fun _ => .inl ⟨_, _, htold, hstdout, rfl⟩⟩,
        fun _ hnot => absurd htold (hnot _)⟩
      rintro ⟨text, hcomplete, rfl⟩
      exact absurd rfl hcomplete.ne_empty
  | @failed f _ _ hfails =>
      refine ⟨⟨nofun, ?_⟩, nofun, fun _ => ⟨rfl, fun hstderr => .inr ⟨fun _ => hfails.not_told, f,
        hfails, fun g hg => hg.unique hfails, ?_, f.report_ne_empty⟩⟩, fun _ _ => ⟨rfl, rfl⟩⟩
      · rintro ⟨text, hcomplete, rfl⟩
        exact absurd rfl hcomplete.ne_empty
      · simp only [failed, hstderr]
        rfl

/-- Two errors of the input behind which nothing is printed: a cursor without a column, and a source
that cannot be read. -/
theorem run_all_or_nothing_input_errors :
    ∃ s : Surroundings, s.stdout = .ok () ∧
      (InputError s [.ofString "--at", .ofString "4:", .ofString "-"] ∧
        (run s [.ofString "--at", .ofString "4:", .ofString "-"]).success = false ∧
        (run s [.ofString "--at", .ofString "4:", .ofString "-"]).stdout = "") ∧
      InputError s [.ofString "-"] ∧ (run s [.ofString "-"]).success = false ∧
        (run s [.ofString "-"]).stdout = "" := by
  let s : Surroundings := ⟨[], .error "broken", fun _ => .error "", .ok (), .ok (), .elsewhere⟩
  let at4 : List Argument := [.ofString "--at", .ofString "4:", .ofString "-"]
  have hasks : ∀ a ∈ at4, ∀ stop, ¬a.Asks stop := by
    simp only [at4, List.forall_mem_cons]
    refine ⟨?_, ?_, ?_, nofun⟩
    all_goals exact fun stop h => absurd h.form (by decide)
  have hcursor : InputError s at4 := by
    refine @InputError.noCursor s at4 [] [.ofString "-"] (.ofString "4:") nofun ?_ (.inl rfl)
    intro text htext
    rw [← Option.some.inj ((rfl : (Argument.ofString "4:").text? = some "4:").symm.trans htext)]
    decide +kernel
  have hsource : InputError s [.ofString "-"] :=
    .unloadable (o := ⟨[some '-'], none, false, "warn", .standard⟩) rfl (.unreadable rfl)
  obtain ⟨-, -, -, hbad⟩ := run_all_or_nothing s at4
  obtain ⟨-, -, -, hunread⟩ := run_all_or_nothing s [.ofString "-"]
  refine ⟨s, rfl, ⟨hcursor, hbad hcursor fun _ => not_told_of_forall hasks⟩, hsource,
    hunread hsource fun _ => not_told_of_forall fun a ha => hasks a ?_⟩
  exact List.mem_cons_of_mem _ (List.mem_cons_of_mem _ ha)

end QuickFix.Command
