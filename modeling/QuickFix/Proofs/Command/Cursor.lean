import Mathlib.Data.Prod.Lex
import QuickFix.Proofs.Command.CursorText
import QuickFix.Proofs.Command.Outcome
import QuickFix.Proofs.Position

/-!
# The fixes at a cursor

A run that is asked for the fixes at a cursor prints a selection of what it lists without one: the
actions of the entries whose range holds the cursor (`run_at_eq_selected`). The two command lines
differ by `--at` and its value, and the first part shows that they are read alike otherwise
(`Options.parse_at_cons`): `Ahead` relates the progress made with the cursor in front to the
progress made without it, and every accepted argument keeps it.
-/

set_option autoImplicit false

namespace QuickFix.Command

/-! ## A cursor in front -/

namespace Progress

/-- The progress that has taken in a cursor besides, before all else. -/
def withCursor (p : Progress) (place : Position) : Progress :=
  { p with given := .cursor :: p.given, cursor := some place }

variable {p q r : Progress} {place : Position} {flag : Flag}

/-- Assigning a value to another option is independent of the cursor. -/
theorem assign_withCursor {value : Argument} (h : p.assign flag value = .ok r)
    (hflag : flag ≠ .cursor) :
    (p.withCursor place).assign flag value = .ok (r.withCursor place) := by
  cases flag with
  | cursor => exact absurd rfl hflag
  | input | logFilter | logFormat =>
      simp only [assign] at h ⊢
      split at h
      all_goals cases h
      simp_all [withCursor]
  | pretty | help | version =>
      cases h
      rfl

/-- Taking values that set no cursor is independent of the cursor. -/
theorem take_withCursor {values : List Argument} (h : p.take flag values = (r, none))
    (hr : r.cursor = none) :
    (p.withCursor place).take flag values = (r.withCursor place, none) := by
  have hflag : flag ≠ .cursor := ((take_eq_ok h).2 hr).2
  obtain ⟨value, more, hvalues, hgiven, hassign⟩ := take_eq_ok_iff.mp h
  refine take_eq_ok_iff.mpr ⟨value, more, hvalues, ?_, assign_withCursor hassign hflag⟩
  simp [withCursor, hflag, hgiven]

/-- Settling that sets no cursor is independent of the cursor. -/
theorem settle_withCursor (h : p.settle = (q, none)) (hq : q.cursor = none) :
    (p.withCursor place).settle = (q.withCursor place, none) := by
  rcases settle_eq_ok_iff.mp h with ⟨hnone, rfl⟩ | ⟨flag, values, hpending, htake⟩
  · exact settle_eq_ok_iff.mpr (.inl ⟨hnone, rfl⟩)
  · exact settle_eq_ok_iff.mpr (.inr ⟨flag, values, hpending, take_withCursor htake hq⟩)

/-- `p'` differs from `p` by a cursor that came in front: it still waits to be taken in, or was. -/
inductive Ahead (t : Argument) (place : Position) : Progress → Progress → Prop
  | pending {p : Progress} : p.pending = none → p.awaiting = false → p.given = [] →
      Ahead t place p { p with pending := some (.cursor, [t]) }
  | taken (p : Progress) : Ahead t place p (p.withCursor place)

variable {p' : Progress} {t : Argument} {text : String}

/-- Being ahead by `--at` is no end of the options. -/
theorem Ahead.optionsEnded_eq (h : Ahead t place p p') : p'.optionsEnded = p.optionsEnded := by
  cases h <;> rfl

/-- Being ahead by `--at` is no input. -/
theorem Ahead.inputMet_eq (h : Ahead t place p p') : p'.inputMet = p.inputMet := by
  cases h <;> rfl

/-- Progress that is ahead by `--at` settles where the other does, with the cursor set. -/
theorem Ahead.settle (h : Ahead t place p p') (htext : t.text? = some text)
    (hplace : cursor? text.toList = some place) (hsettle : p.settle = (q, none))
    (hq : q.cursor = none) : p'.settle = (q.withCursor place, none) := by
  cases h with
  | pending hpending hawaiting hgiven =>
      rcases settle_eq_ok_iff.mp hsettle with ⟨-, rfl⟩ | ⟨flag, values, hsome, -⟩
      · refine settle_eq_ok_iff.mpr (.inr ⟨.cursor, [t], rfl, take_eq_ok_iff.mpr
          ⟨t, [], rfl, by simp [hgiven], assign_cursor_eq_ok_iff.mpr
            ⟨text, place, htext, hplace, ?_⟩⟩⟩)
        simp [withCursor, hpending, hawaiting, hgiven]
      · rw [hpending] at hsome
        cases hsome
  | taken => exact settle_withCursor hsettle hq

/-- The cursor in front stays in front. -/
theorem Ahead.steps {a : Argument} (h : Ahead t place p p') (htext : t.text? = some text)
    (hplace : cursor? text.toList = some place) (hstep : Steps p a r) (hr : r.cursor = none) :
    ∃ r', Steps p' a r' ∧ Ahead t place r r' := by
  cases hstep with
  | ended hended =>
      refine ⟨_, .ended (h.optionsEnded_eq.trans hended), ?_⟩
      cases h with
      | pending hpending hawaiting hgiven => exact .pending hpending hawaiting hgiven
      | taken => exact .taken _
  | taken hended hgives hsettle htake =>
      -- settling takes the cursor in, and from here on it is all that differs
      have hsettle' := h.settle htext hplace hsettle ((take_eq_ok htake).2 hr).1
      exact ⟨_, .taken (h.optionsEnded_eq.trans hended) hgives hsettle' (take_withCursor htake hr),
        .taken _⟩
  | named hended hnames htakes hsettle =>
      have hsettle' := h.settle htext hplace hsettle hr
      exact ⟨_, .named (h.optionsEnded_eq.trans hended) hnames htakes hsettle', .taken _⟩
  | value hended hplain hawaiting hpending =>
      cases h with
      -- the option that waits for this value came behind the cursor, which is taken in by now
      | pending hnone =>
          rw [hnone] at hpending
          cases hpending
      | taken => exact ⟨_, .value hended hplain hawaiting hpending, .taken _⟩
  | input hplaceable hmet hsettle =>
      have hsettle' := h.settle htext hplace hsettle hr
      refine ⟨_, .input ?_ (h.inputMet_eq.trans hmet) hsettle', .taken _⟩
      rw [h.optionsEnded_eq]
      refine hplaceable.imp_right fun ⟨hplain, hwaiting⟩ => ⟨hplain, ?_⟩
      cases h with
      | pending _ hawaiting => simp [hawaiting]
      | taken => exact hwaiting

/-- Progress finishes exactly when it settles with an input, and what was not given has its
default. -/
theorem finish_eq_ok_iff {o : Options} :
    p.finish = .ok o ↔ ∃ q input, p.settle = (q, none) ∧ q.input = some input ∧
      o = ⟨input, q.cursor, q.pretty, q.logFilter.getD standardFilter,
        q.logFormat.getD .standard⟩ := by
  rw [finish, bind_orStop_eq_ok_iff]
  refine exists_congr fun q => ?_
  cases q.input <;> simp [eq_comm]

/-- Progress that is ahead by `--at` finishes with the other's options and the cursor set. -/
theorem Ahead.finish {o : Options} (h : Ahead t place p p') (htext : t.text? = some text)
    (hplace : cursor? text.toList = some place) (hfinish : p.finish = .ok o)
    (ho : o.cursor = none) : p'.finish = .ok { o with cursor := some place } := by
  obtain ⟨q, input, hsettle, hinput, rfl⟩ := finish_eq_ok_iff.mp hfinish
  exact finish_eq_ok_iff.mpr
    ⟨_, input, h.settle htext hplace hsettle ho, hinput, rfl⟩

/-- Where the options have no cursor, none was set on the way. -/
theorem cursor_eq_none_of_foldlM {o : Options} {arguments : List Argument}
    (hfold : arguments.foldlM step p = .ok r) (hfinish : r.finish = .ok o) (ho : o.cursor = none) :
    p.cursor = none := by
  obtain ⟨q, input, hsettle, -, rfl⟩ := finish_eq_ok_iff.mp hfinish
  have hr : r.cursor = none := (settle_eq_ok hsettle).2 ho
  by_contra hp
  refine of_foldlM_eq_ok (P := fun p => p.cursor ≠ none) ?_ hfold hp hr
  exact fun p a r _ hstep hp hr => hp ((step_eq_ok_iff.mp hstep).cursor_eq_none hr)

/-- Behind a cursor in front, the rest of a command line that asks for no cursor is read as it is
read alone. -/
theorem Ahead.foldlM {o : Options} {arguments : List Argument} (h : Ahead t place p p')
    (htext : t.text? = some text) (hplace : cursor? text.toList = some place)
    (hfold : arguments.foldlM step p = .ok r) (hfinish : r.finish = .ok o) (ho : o.cursor = none) :
    ∃ r', arguments.foldlM step p' = .ok r' ∧ r'.finish = .ok { o with cursor := some place } := by
  induction arguments generalizing p p' with
  | nil =>
      cases hfold
      exact ⟨p', rfl, h.finish htext hplace hfinish ho⟩
  | cons a arguments ih =>
      obtain ⟨q, hq, hfold⟩ := foldlM_cons_eq_ok_iff.mp hfold
      have hnone : q.cursor = none := cursor_eq_none_of_foldlM hfold hfinish ho
      obtain ⟨q', hq', hahead⟩ := h.steps htext hplace (step_eq_ok_iff.mp hq) hnone
      obtain ⟨r', hr', hdone⟩ := ih hahead hfold
      exact ⟨r', foldlM_cons_eq_ok_iff.mpr ⟨q', step_eq_ok_iff.mpr hq', hr'⟩, hdone⟩

end Progress

/-- An argument that spells a cursor looks like no option. -/
theorem Argument.plain_of_cursor? {t : Argument} {text : String} {place : Position}
    (htext : t.text? = some text) (hplace : cursor? text.toList = some place) : t.Plain := by
  rintro c rest rfl
  have hmem : '-' ∈ text.toList := by
    have hmap := Argument.eq_map_some_of_text? htext
    have : some '-' ∈ text.toList.map some := hmap ▸ List.mem_cons_self
    simpa using this
  exact (cursor?_eq_some_iff.mp hplace).minus_not_mem hmem

/-- A cursor in front of a command line that asks for none sets the cursor and nothing else. -/
theorem Options.parse_at_cons {arguments : List Argument} {o : Options} {t : Argument}
    {text : String} {place : Position} (h : Options.parse arguments = .ok o)
    (ho : o.cursor = none) (htext : t.text? = some text)
    (hplace : cursor? text.toList = some place) :
    Options.parse (.ofString "--at" :: t :: arguments) = .ok { o with cursor := some place } := by
  obtain ⟨r, hfold, hfinish⟩ := Options.parse_eq_ok_iff.mp h
  have hat : Progress.step {} (.ofString "--at") =
      .ok { pending := some (.cursor, []), awaiting := true } := by
    rw [Progress.step_of_names rfl names_at rfl]
    rfl
  have hvalue : Progress.step { pending := some (.cursor, []), awaiting := true } t =
      .ok { pending := some (.cursor, [t]) } := by
    rw [Progress.step_plain rfl (Argument.plain_of_cursor? htext hplace)]
    rfl
  have hahead : Progress.Ahead t place {} { pending := some (.cursor, [t]) } := .pending rfl rfl rfl
  obtain ⟨r', hfold', hfinish'⟩ := hahead.foldlM htext hplace hfold hfinish ho
  refine Options.parse_eq_ok_iff.mpr ⟨r', ?_, hfinish'⟩
  exact foldlM_cons_eq_ok_iff.mpr ⟨_, hat, foldlM_cons_eq_ok_iff.mpr ⟨_, hvalue, hfold'⟩⟩

end QuickFix.Command

namespace QuickFix

/-- A position as a pair of numbers, in the lexicographic order. -/
def Position.lex (p : Position) : ℕ ×ₗ ℕ :=
  toLex (p.line.toNat, p.character.toNat)

/-- The order of positions is the lexicographic one of line and character. -/
theorem Position.lex_le_lex_iff {p q : Position} : p.lex ≤ q.lex ↔ p ≤ q := by
  rw [Position.le_iff, Position.lex, Position.lex, Prod.Lex.toLex_le_toLex]

namespace Command

/-- What is listed of an entry: the range an action is offered at, and the action. -/
def listed (item : Range × Json) : Json :=
  .object [("range", item.1.toJson), ("action", item.2)]

/-- The actions of the items whose range holds a position. -/
def selected (p : Position) (items : List (Range × Json)) : List Json :=
  (items.filter fun item => item.1.start.lex ≤ p.lex ∧ p.lex ≤ item.1.stop.lex).map Prod.snd

/-- The ranges and actions of a file's entries, as they are printed. -/
def printedEntries (c : Catalog) (uri : Uri) : List (Range × Json) :=
  (c.entries uri).map fun e => (e.range, e.action.toJson)

/-- Without a cursor, the answer lists every action with its range. -/
theorem answerText_none (c : Catalog) (uri : Uri) (pretty : Bool) :
    answerText c uri none pretty = arrayText pretty ((printedEntries c uri).map listed) := by
  rw [printedEntries, List.map_map]
  rfl

/-- A range contains the positions between its ends in the lexicographic order, both ends among
them. -/
theorem contains_eq_decide_lex (r : Range) (p : Position) :
    r.contains p = decide (r.start.lex ≤ p.lex ∧ p.lex ≤ r.stop.lex) := by
  simp only [Range.contains, Position.lex_le_lex_iff, Bool.decide_and]

/-- With a cursor, the answer holds the actions whose range contains it. -/
theorem answerText_some (c : Catalog) (uri : Uri) (p : Position) (pretty : Bool) :
    answerText c uri (some p) pretty = arrayText pretty (selected p (printedEntries c uri)) := by
  have hselected : selected p (printedEntries c uri) = (c.actionsAt uri p).map Action.toJson := by
    simp only [selected, printedEntries, Catalog.actionsAt, List.filter_map, List.map_map,
      contains_eq_decide_lex]
    rfl
  rw [hselected]
  rfl

/-- An item whose range ends before it starts is never selected. -/
theorem selected_backwards (p : Position) (items : List (Range × Json)) :
    selected p (items.filter fun item => item.1.stop.lex < item.1.start.lex) = [] := by
  simp only [selected, List.filter_filter, List.map_eq_nil_iff, List.filter_eq_nil_iff,
    Bool.and_eq_true, decide_eq_true_eq, not_and]
  rintro item - hspans hbackwards
  exact absurd (hspans.1.trans hspans.2) (not_le_of_gt hbackwards)

/-- Asked for the fixes at a cursor, a run prints the actions of those entries of the full listing
whose range holds the cursor, in the order of the listing. Every position can be asked for, by any
of its texts in front of the arguments that ask for the full listing. -/
theorem run_at_eq_selected {s : Surroundings} {arguments : List Argument} {o : Options}
    (hparse : Options.parse arguments = .ok o) (hnone : o.cursor = none)
    (hsuccess : (run s arguments).success = true) (p : Position) :
    ∃ items : List (Range × Json),
      (run s arguments).stdout = arrayText o.pretty (items.map listed) ∧
      (∀ arguments', Options.parse arguments' = .ok { o with cursor := some p } →
        (run s arguments').success = true ∧
          (run s arguments').stdout = arrayText o.pretty (selected p items)) ∧
      (∃ t, cursor? t = some p) ∧
      (∀ t, cursor? t = some p → Options.parse (.ofString "--at" :: t.map some :: arguments) =
        .ok { o with cursor := some p }) ∧
      selected p (items.filter fun item => item.1.stop.lex < item.1.start.lex) = [] := by
  obtain ⟨hstdout, ⟨filter, hfilter⟩, report, uri, hloads⟩ :=
    exists_loads_of_success hparse hsuccess
  refine ⟨printedEntries (Catalog.empty.surveyAll uri report.diagnostics).1 uri, ?_, ?_,
    ⟨cursorText p, cursor?_cursorText p⟩, ?_, selected_backwards _ _⟩
  · rw [(hloads.run_eq hparse hfilter hstdout).2, hnone, answerText_none]
  · intro arguments' hparse'
    -- the cursor plays no part before the answer is put together
    have hfilter' : logFilter s { o with cursor := some p } = .ok filter := hfilter
    have hloads' : Loads s { o with cursor := some p } report uri := ⟨hloads.document, hloads.path⟩
    obtain ⟨hdone, hprinted⟩ := hloads'.run_eq hparse' hfilter' hstdout
    exact ⟨hdone, hprinted.trans (answerText_some _ _ _ _)⟩
  · intro t ht
    have htext : Argument.text? (t.map some) = some (String.ofList t) := by
      rw [Argument.text?, Text.whole?_eq_some_iff.mpr rfl, Option.map_some]
    refine Options.parse_at_cons hparse hnone htext ?_
    rwa [String.toList_ofList]

/-- Two entries, the second with a range that ends before it starts. -/
theorem run_at_eq_selected_two_entries :
    ∃ (s : Surroundings) (o : Options), Options.parse [[some '-']] = .ok o ∧ o.cursor = none ∧
      (run s [[some '-']]).success = true ∧ ∃ items : List (Range × Json),
        (run s [[some '-']]).stdout = arrayText o.pretty (items.map listed) ∧
        (run s [.ofString "--at", "0:4".toList.map some, [some '-']]).stdout =
          arrayText o.pretty (selected ⟨0, 4⟩ items) := by
  let forwards : Diagnostic :=
    { range := ⟨⟨0, 2⟩, ⟨0, 5⟩⟩, message := "Some record fields are undefined:\na" }
  let backwards : Diagnostic :=
    { range := ⟨⟨0, 6⟩, ⟨0, 4⟩⟩, message := "Some record fields are undefined:\nb" }
  let document : Json :=
    .object [("path", .string "/a"), ("diagnostics", .array [forwards.toJson, backwards.toJson])]
  let s : Surroundings :=
    ⟨[], .ok (Text.octets (Json.write .compact 0 document)), fun _ => .error "", .ok (), .ok (),
      .elsewhere⟩
  have hsuccess : (run s [[some '-']]).success = true := by decide +kernel
  obtain ⟨items, hall, hat, -, hparse, -⟩ :=
    run_at_eq_selected (o := ⟨[some '-'], none, false, "warn", .standard⟩) rfl rfl hsuccess ⟨0, 4⟩
  exact ⟨s, _, rfl, rfl, hsuccess, items, hall, (hat _ (hparse _ (by decide +kernel))).2⟩

end Command

end QuickFix
