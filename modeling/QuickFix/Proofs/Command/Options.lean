import QuickFix.Command.Options
import QuickFix.Proofs.Fallible
import QuickFix.Proofs.Octets

/-!
# Accepted command lines

`Progress.Steps` says what one argument does to the progress made, if it is accepted, and
`Progress.step_eq_ok_iff` that it says so exactly. So a value that is no cursor spoils every command
line that hands it to `--at` before the options end (`Options.parse_ne_ok_of_noCursor`): the fault
may be found late, but nothing that is accepted in between lifts it.
-/

set_option autoImplicit false

namespace QuickFix.Command

/-- An argument that is read as no option, at any place. -/
def Argument.Plain (a : Argument) : Prop :=
  ∀ c rest, a ≠ some '-' :: c :: rest

/-- An argument that names an option, with the value attached to it. -/
def Argument.Names (a : Argument) (flag : Flag) (value : Option Argument) : Prop :=
  ∃ rest, rest ≠ [] ∧ a = some '-' :: some '-' :: rest ∧
    (Argument.cut '=' rest).1.text?.bind Flag.ofLong? = some flag ∧
    (Argument.cut '=' rest).2 = value

/-- An argument that gives an option together with its value. -/
def Argument.Gives (a : Argument) (flag : Flag) (value : Argument) : Prop :=
  flag.takesValue = true ∧ a.Names flag (some value) ∨
    flag = .pretty ∧ a.Names flag none ∧ value = []

namespace Progress

/-- What an accepted argument does. -/
inductive Steps : Progress → Argument → Progress → Prop
  | ended {p : Progress} :
      p.optionsEnded = false → Steps p [some '-', some '-'] { p with optionsEnded := true }
  | taken {p q r : Progress} {a value : Argument} {flag : Flag} :
      p.optionsEnded = false → a.Gives flag value → p.settle = (q, none) →
      q.take flag [value] = (r, none) → Steps p a r
  | named {p q : Progress} {a : Argument} {flag : Flag} :
      p.optionsEnded = false → a.Names flag none → flag.takesValue = true →
      p.settle = (q, none) → Steps p a { q with pending := some (flag, []), awaiting := true }
  | value {p : Progress} {a : Argument} {flag : Flag} {values : List Argument} :
      p.optionsEnded = false → a.Plain → p.awaiting = true → p.pending = some (flag, values) →
      Steps p a { p with pending := some (flag, values ++ [a]), awaiting := false }
  | input {p q : Progress} {a : Argument} :
      (p.optionsEnded = true ∨ a.Plain ∧ (p.awaiting = true → p.pending = none)) →
      p.inputMet = false → p.settle = (q, none) →
      Steps p a { q with pending := some (.input, [a]), awaiting := false, inputMet := true }

/-- Reading goes on exactly when no fault was met. -/
theorem orStop_eq_ok_iff {x : Progress × Option UsageFault} {r : Progress} :
    orStop x = .ok r ↔ x = (r, none) := by
  rcases x with ⟨p, _ | f⟩ <;> simp [orStop]

/-- A reading that stops at a fault succeeds exactly when there is no fault and what follows
succeeds. -/
theorem bind_orStop_eq_ok_iff {α : Type} {x : Progress × Option UsageFault}
    {f : Progress → Except Stop α} {r : α} :
    (orStop x >>= f) = .ok r ↔ ∃ q, x = (q, none) ∧ f q = .ok r := by
  simp only [bind_eq_ok_iff, orStop_eq_ok_iff]

/-- An argument that is no option is accepted exactly when no input was met before and the pending
option settles, and it then waits to be taken as the input. -/
theorem plain_eq_ok_iff {p r : Progress} {a : Argument} :
    p.plain a = .ok r ↔ p.inputMet = false ∧ ∃ q, p.settle = (q, none) ∧
      { q with pending := some (.input, [a]), awaiting := false, inputMet := true } = r := by
  simp only [plain]
  split
  · simp_all
  · rw [bind_orStop_eq_ok_iff]
    simp_all

/-- Of the options without a value only `--pretty` lets the reading go on: help and version stop
it. -/
theorem switch_eq_ok_iff {p r : Progress} {flag : Flag} {long : Bool}
    (h : flag.takesValue = false) :
    p.switch flag long = .ok r ↔
      flag = .pretty ∧ ∃ q, p.settle = (q, none) ∧ q.take flag [[]] = (r, none) := by
  rw [switch, bind_orStop_eq_ok_iff]
  cases flag <;> simp_all [Flag.takesValue, orStop_eq_ok_iff]

/-- A long option that takes a value waits for the next argument, unless its value is attached,
which is then taken at once. -/
theorem longOption_of_takesValue {p : Progress} {name : Argument} {flag : Flag}
    (hname : name.text?.bind Flag.ofLong? = some flag) (htakes : flag.takesValue = true) :
    p.longOption name none =
        (orStop p.settle >>= fun q =>
          .ok { q with pending := some (flag, []), awaiting := true }) ∧
      ∀ v, p.longOption name (some v) =
        (orStop p.settle >>= fun q => orStop (q.take flag [v])) := by
  simp [longOption, hname, htakes]

/-- A long option that takes no value is a switch, and a value attached to it is a fault. -/
theorem longOption_of_takes_no_value {p : Progress} {name : Argument} {flag : Flag}
    (hname : name.text?.bind Flag.ofLong? = some flag) (htakes : flag.takesValue = false) :
    p.longOption name none = p.switch flag true ∧
      ∀ v, ∃ f, p.longOption name (some v) = .error (.fault f) := by
  simp [longOption, hname, htakes]

/-- A long option that is accepted is known, comes after a pending option that settles, and takes
its attached value, is the switch `--pretty`, or waits for its value. -/
theorem longOption_eq_ok {p r : Progress} {name : Argument} {value : Option Argument}
    (h : p.longOption name value = .ok r) :
    ∃ flag q, name.text?.bind Flag.ofLong? = some flag ∧ p.settle = (q, none) ∧
      ((∃ v, flag.takesValue = true ∧ value = some v ∧ q.take flag [v] = (r, none)) ∨
        (flag = .pretty ∧ value = none ∧ q.take flag [[]] = (r, none)) ∨
        flag.takesValue = true ∧ value = none ∧
          { q with pending := some (flag, []), awaiting := true } = r) := by
  cases hname : name.text?.bind Flag.ofLong? with
  | none => simp [longOption, hname] at h
  | some flag =>
      cases htakes : flag.takesValue with
      | true =>
          cases value with
          | some v =>
              rw [(longOption_of_takesValue hname htakes).2 v, bind_orStop_eq_ok_iff] at h
              obtain ⟨q, hsettle, htake⟩ := h
              exact ⟨flag, q, rfl, hsettle, .inl ⟨v, htakes, rfl, orStop_eq_ok_iff.mp htake⟩⟩
          | none =>
              rw [(longOption_of_takesValue hname htakes).1, bind_orStop_eq_ok_iff] at h
              obtain ⟨q, hsettle, hr⟩ := h
              exact ⟨flag, q, rfl, hsettle, .inr (.inr ⟨htakes, rfl, Except.ok.inj hr⟩)⟩
      | false =>
          cases value with
          | some v =>
              obtain ⟨f, hfault⟩ := (longOption_of_takes_no_value (p := p) hname htakes).2 v
              rw [hfault] at h
              cases h
          | none =>
              rw [(longOption_of_takes_no_value hname htakes).1, switch_eq_ok_iff htakes] at h
              obtain ⟨hpretty, q, hsettle, htake⟩ := h
              exact ⟨flag, q, rfl, hsettle, .inr (.inl ⟨hpretty, rfl, htake⟩)⟩

/-- No cluster of short options lets the reading go on: the only short options ask for help and for
the version. -/
theorem shortOptions_ne_ok {p r : Progress} {letters : Argument} :
    p.shortOptions letters ≠ .ok r := by
  intro h
  simp only [shortOptions] at h
  split at h
  · simpa using ((switch_eq_ok_iff rfl).mp h).1
  · simpa using ((switch_eq_ok_iff rfl).mp h).1
  · cases h
  · cases h

/-- Before `--`, an argument that starts with two dashes and has more is read as a long option, cut
at its first equals sign. -/
theorem step_dashes {p : Progress} {rest : Argument} (hended : p.optionsEnded = false)
    (hne : rest ≠ []) :
    p.step (some '-' :: some '-' :: rest) =
      p.longOption (Argument.cut '=' rest).1 (Argument.cut '=' rest).2 := by
  obtain ⟨x, rest, rfl⟩ := List.exists_cons_of_ne_nil hne
  simp [step, hended]

/-- Before `--`, the bare name of an option that takes a value makes that option the pending one. -/
theorem step_of_names {p : Progress} {a : Argument} {flag : Flag} (hended : p.optionsEnded = false)
    (hnames : a.Names flag none) (htakes : flag.takesValue = true) :
    p.step a = (orStop p.settle >>= fun q =>
      .ok { q with pending := some (flag, []), awaiting := true }) := by
  obtain ⟨rest, hne, rfl, hname, hvalue⟩ := hnames
  rw [step_dashes hended hne, hvalue, (longOption_of_takesValue hname htakes).1]

/-- Before `--`, an option with an attached value settles the pending option and takes that
value. -/
theorem step_of_names_attached {p : Progress} {a value : Argument} {flag : Flag}
    (hended : p.optionsEnded = false) (hnames : a.Names flag (some value))
    (htakes : flag.takesValue = true) :
    p.step a = (orStop p.settle >>= fun q => orStop (q.take flag [value])) := by
  obtain ⟨rest, hne, rfl, hname, hvalue⟩ := hnames
  rw [step_dashes hended hne, hvalue, (longOption_of_takesValue hname htakes).2]

/-- Before `--`, an argument that looks like no option is the value that is waited for, or else the
input. -/
theorem step_plain {p : Progress} {a : Argument} (hended : p.optionsEnded = false)
    (hplain : a.Plain) :
    p.step a =
      match p.awaiting, p.pending with
      | true, some (flag, values) =>
        .ok { p with pending := some (flag, values ++ [a]), awaiting := false }
      | _, _ => p.plain a := by
  simp only [step, hended, Bool.false_eq_true, if_false]
  split
  · exact absurd rfl (hplain _ _)
  · exact absurd rfl (hplain _ _)
  · exact absurd rfl (hplain _ _)
  · rfl

/-- An argument is accepted exactly if it does what `Steps` says. -/
theorem step_eq_ok_iff {p r : Progress} {a : Argument} : p.step a = .ok r ↔ Steps p a r := by
  constructor
  · intro h
    -- behind `--`, at `--`, an option by its name, options by their letters, and no option
    simp only [step] at h
    split at h
    · rename_i hended
      obtain ⟨hmet, q, hsettle, rfl⟩ := plain_eq_ok_iff.mp h
      exact .input (.inl hended) hmet hsettle
    · rename_i hended
      rw [Bool.not_eq_true] at hended
      split at h
      · rw [← Except.ok.inj h]
        exact .ended hended
      · rename_i rest hne
        have hrest : rest ≠ [] := by
          rintro rfl
          exact hne rfl
        obtain ⟨flag, q, hname, hsettle, hdone⟩ := longOption_eq_ok h
        rcases hdone with ⟨v, htakes, hvalue, htake⟩ | ⟨hpretty, hvalue, htake⟩ |
          ⟨htakes, hvalue, rfl⟩
        · exact .taken hended (.inl ⟨htakes, rest, hrest, rfl, hname, hvalue⟩) hsettle htake
        · exact .taken hended (.inr ⟨hpretty, ⟨rest, hrest, rfl, hname, hvalue⟩, rfl⟩) hsettle htake
        · exact .named hended ⟨rest, hrest, rfl, hname, hvalue⟩ htakes hsettle
      · exact absurd h shortOptions_ne_ok
      · rename_i hshort
        have hplain : a.Plain := hshort
        split at h
        · rename_i hawaiting hpending
          rw [← Except.ok.inj h]
          exact .value hended hplain hawaiting hpending
        · rename_i hwaiting
          obtain ⟨hmet, q, hsettle, rfl⟩ := plain_eq_ok_iff.mp h
          refine .input (.inr ⟨hplain, fun hawaiting => ?_⟩) hmet hsettle
          exact Option.eq_none_iff_forall_ne_some.mpr fun pending =>
            hwaiting pending.1 pending.2 hawaiting
  · intro h
    cases h with
    | ended hended => simp [step, hended]
    | taken hended hgives hsettle htake =>
        rcases hgives with ⟨htakes, hnames⟩ | ⟨rfl, ⟨rest, hne, rfl, hname, hvalue⟩, rfl⟩
        · rw [step_of_names_attached hended hnames htakes, bind_orStop_eq_ok_iff]
          exact ⟨_, hsettle, orStop_eq_ok_iff.mpr htake⟩
        · rw [step_dashes hended hne, hvalue, (longOption_of_takes_no_value hname rfl).1,
            switch_eq_ok_iff rfl]
          exact ⟨rfl, _, hsettle, htake⟩
    | named hended hnames htakes hsettle =>
        rw [step_of_names hended hnames htakes, bind_orStop_eq_ok_iff]
        exact ⟨_, hsettle, rfl⟩
    | value hended hplain hawaiting hpending =>
        simp [step_plain hended hplain, hawaiting, hpending]
    | input hplace hmet hsettle =>
        have hdone := (plain_eq_ok_iff (a := a)).mpr ⟨hmet, _, hsettle, rfl⟩
        rcases hplace with hended | ⟨hplain, hwaiting⟩
        · simp only [step, hended, if_true]
          exact hdone
        · cases hended : p.optionsEnded with
          | true =>
              simp only [step, hended, if_true]
              exact hdone
          | false =>
              rw [step_plain hended hplain]
              split
              · rename_i hawaiting hpending
                rw [hwaiting hawaiting] at hpending
                cases hpending
              · exact hdone

/-! ## Values that are no cursor -/

/-- An option takes its values exactly when there is one, the option was not given before, and the
first value can be assigned to it. -/
theorem take_eq_ok_iff {p r : Progress} {flag : Flag} {values : List Argument} :
    p.take flag values = (r, none) ↔ ∃ value more, values = value :: more ∧ flag ∉ p.given ∧
      assign { p with given := p.given ++ [flag] } flag value = .ok r := by
  cases values with
  | nil => simp [take]
  | cons value more =>
      simp only [take, List.contains_iff_mem]
      split
      · simp_all
      · split <;> simp_all

/-- Settling succeeds exactly when no option is pending or the pending one takes the values it
has. -/
theorem settle_eq_ok_iff {p q : Progress} :
    p.settle = (q, none) ↔ p.pending = none ∧ p = q ∨ ∃ flag values,
      p.pending = some (flag, values) ∧
        take { p with pending := none, awaiting := false } flag values = (q, none) := by
  simp only [settle]
  split <;> simp_all

/-- A value is assigned to `--at` exactly when it is text that reads as a cursor, and the cursor is
all that it changes. -/
theorem assign_cursor_eq_ok_iff {p r : Progress} {value : Argument} :
    p.assign .cursor value = .ok r ↔ ∃ text place, value.text? = some text ∧
      cursor? text.toList = some place ∧ { p with cursor := some place } = r := by
  simp only [assign]
  split
  · simp_all
  · split <;> simp_all

end Progress

/-- A value from which no cursor can be read. -/
def Argument.NoCursor (v : Argument) : Prop :=
  ∀ text, v.text? = some text → cursor? text.toList = none

namespace Progress

/-- The pending option is a cursor whose value cannot be read or will not come. -/
def Spoilt (p : Progress) : Prop :=
  ∃ values, p.pending = some (.cursor, values) ∧ (∀ v more, values = v :: more → v.NoCursor) ∧
    (p.awaiting = true → p.optionsEnded = true)

/-- A value that spells no cursor is never taken by `--at`, nor is a missing one. -/
theorem take_cursor_ne_ok {p q : Progress} {values : List Argument}
    (h : ∀ v more, values = v :: more → v.NoCursor) : p.take .cursor values ≠ (q, none) := by
  intro htake
  obtain ⟨v, more, hvalues, -, hassign⟩ := take_eq_ok_iff.mp htake
  obtain ⟨text, place, htext, hplace, -⟩ := assign_cursor_eq_ok_iff.mp hassign
  rw [h v more hvalues text htext] at hplace
  cases hplace

/-- A pending `--at` whose value spells no cursor never settles. -/
theorem settle_ne_ok_of_pending {p q : Progress} {values : List Argument}
    (hpending : p.pending = some (.cursor, values))
    (hvalues : ∀ v more, values = v :: more → v.NoCursor) : p.settle ≠ (q, none) := by
  intro hsettle
  rcases settle_eq_ok_iff.mp hsettle with ⟨hnone, -⟩ | ⟨flag, values', hpending', htake⟩
  · rw [hnone] at hpending
    cases hpending
  · rw [hpending] at hpending'
    cases hpending'
    exact take_cursor_ne_ok hvalues htake

/-- Spoilt progress never settles. -/
theorem Spoilt.settle_ne_ok {p q : Progress} (h : p.Spoilt) : p.settle ≠ (q, none) := by
  obtain ⟨values, hpending, hvalues, -⟩ := h
  exact settle_ne_ok_of_pending hpending hvalues

/-- Only the end of options is accepted after such a value. -/
theorem Spoilt.steps {p r : Progress} {a : Argument} (h : p.Spoilt) (hstep : Steps p a r) :
    r.Spoilt := by
  cases hstep with
  | ended hended =>
      obtain ⟨values, hpending, hvalues, -⟩ := h
      exact ⟨values, hpending, hvalues, fun _ => rfl⟩
  | taken _ _ hsettle _ => exact absurd hsettle h.settle_ne_ok
  | named _ _ _ hsettle => exact absurd hsettle h.settle_ne_ok
  | value hended _ hawaiting _ =>
      obtain ⟨-, -, -, hspoilt⟩ := h
      rw [hspoilt hawaiting] at hended
      cases hended
  | input _ _ hsettle => exact absurd hsettle h.settle_ne_ok

/-- Spoilt progress never finishes with options. -/
theorem Spoilt.finish_ne_ok {p : Progress} {o : Options} (h : p.Spoilt) : p.finish ≠ .ok o := by
  intro hfinish
  obtain ⟨q, hsettle, -⟩ := bind_orStop_eq_ok_iff.mp hfinish
  exact h.settle_ne_ok hsettle

/-- What a value changes: nothing of what is known of the arguments' form, and the cursor only
if it is one. -/
theorem assign_eq_ok {p r : Progress} {flag : Flag} {value : Argument}
    (h : p.assign flag value = .ok r) :
    r.given = p.given ∧ r.pending = p.pending ∧ r.awaiting = p.awaiting ∧
      r.inputMet = p.inputMet ∧ r.optionsEnded = p.optionsEnded ∧
      (flag = .cursor ∧ r.cursor ≠ none ∨ flag ≠ .cursor ∧ r.cursor = p.cursor) := by
  cases flag with
  | cursor =>
      obtain ⟨text, place, -, -, rfl⟩ := assign_cursor_eq_ok_iff.mp h
      simp
  | input | logFilter | logFormat =>
      simp only [assign] at h
      split at h
      all_goals cases h
      simp
  | pretty | help | version =>
      cases h
      simp

/-- Taking values leaves the end of the options where it was, and only `--at` sets the cursor. -/
theorem take_eq_ok {p r : Progress} {flag : Flag} {values : List Argument}
    (h : p.take flag values = (r, none)) :
    r.optionsEnded = p.optionsEnded ∧ (r.cursor = none → p.cursor = none ∧ flag ≠ .cursor) := by
  obtain ⟨value, more, rfl, -, hassign⟩ := take_eq_ok_iff.mp h
  obtain ⟨-, -, -, -, hended, hcursor | hcursor⟩ := assign_eq_ok hassign
  · exact ⟨hended, fun hnone => absurd hnone hcursor.2⟩
  · exact ⟨hended, fun hnone => ⟨hcursor.2 ▸ hnone, hcursor.1⟩⟩

/-- Settling leaves the end of the options where it was and never clears the cursor. -/
theorem settle_eq_ok {p q : Progress} (h : p.settle = (q, none)) :
    q.optionsEnded = p.optionsEnded ∧ (q.cursor = none → p.cursor = none) := by
  rcases settle_eq_ok_iff.mp h with ⟨-, rfl⟩ | ⟨flag, values, -, htake⟩
  · exact ⟨rfl, id⟩
  · exact ⟨(take_eq_ok htake).1, fun hnone => ((take_eq_ok htake).2 hnone).1⟩

/-- The options have ended behind an argument if they had before, or if it is the end of options. -/
theorem Steps.optionsEnded_iff {p r : Progress} {a : Argument} (h : Steps p a r) :
    r.optionsEnded = true ↔ p.optionsEnded = true ∨ a = [some '-', some '-'] := by
  have hnames : ∀ {flag : Flag} {value : Option Argument}, a.Names flag value →
      a ≠ [some '-', some '-'] := by
    rintro flag value ⟨rest, hne, rfl, -⟩ heq
    exact hne (List.cons.inj (List.cons.inj heq).2).2
  have hplain : a.Plain → a ≠ [some '-', some '-'] := fun h => h _ _
  cases h with
  | ended => simp
  | taken _ hgives hsettle htake =>
      have hne : a ≠ [some '-', some '-'] :=
        hgives.elim (fun hgives => hnames hgives.2) fun hgives => hnames hgives.2.1
      simp [(take_eq_ok htake).1, (settle_eq_ok hsettle).1, hne]
  | named _ hnamed _ hsettle => simp [(settle_eq_ok hsettle).1, hnames hnamed]
  | value _ hvalue => simp [hplain hvalue]
  | input hplace _ hsettle =>
      rcases hplace with hended | ⟨hinput, -⟩
      · simp [(settle_eq_ok hsettle).1, hended]
      · simp [(settle_eq_ok hsettle).1, hplain hinput]

/-- No argument clears the cursor: where none is set afterwards, none was set before. -/
theorem Steps.cursor_eq_none {p r : Progress} {a : Argument} (h : Steps p a r)
    (hr : r.cursor = none) : p.cursor = none := by
  cases h with
  | ended => exact hr
  | taken _ _ hsettle htake => exact (settle_eq_ok hsettle).2 ((take_eq_ok htake).2 hr).1
  | named _ _ _ hsettle => exact (settle_eq_ok hsettle).2 hr
  | value => exact hr
  | input _ _ hsettle => exact (settle_eq_ok hsettle).2 hr

/-- The options have ended behind accepted arguments exactly if one of them is their end. -/
theorem optionsEnded_iff_of_foldlM {arguments : List Argument} {p r : Progress}
    (h : arguments.foldlM step p = .ok r) :
    r.optionsEnded = true ↔ p.optionsEnded = true ∨ [some '-', some '-'] ∈ arguments := by
  induction arguments generalizing p with
  | nil =>
      cases h
      simp
  | cons a arguments ih =>
      obtain ⟨q, hq, hr⟩ := foldlM_cons_eq_ok_iff.mp h
      rw [ih hr, (step_eq_ok_iff.mp hq).optionsEnded_iff, List.mem_cons, or_assoc,
        @eq_comm _ a]

/-- From the start on, they have not ended exactly if their end was not met. -/
theorem optionsEnded_eq_false_iff_of_foldlM {arguments : List Argument} {p : Progress}
    (h : arguments.foldlM step {} = .ok p) :
    p.optionsEnded = false ↔ [some '-', some '-'] ∉ arguments := by
  rw [← Bool.not_eq_true, optionsEnded_iff_of_foldlM h]
  simp

end Progress

/-- The letters `at` are the long name of the cursor's option. -/
theorem names_at_text :
    (Argument.text? [some 'a', some 't']).bind Flag.ofLong? = some .cursor := by
  decide +kernel

/-- The argument `--at` names the cursor's option and attaches no value. -/
theorem names_at : (Argument.ofString "--at").Names .cursor none :=
  ⟨[some 'a', some 't'], by decide, rfl, names_at_text, by decide⟩

/-- The argument `--at=v` names the cursor's option and attaches `v`. -/
theorem names_at_attached (v : Argument) :
    (Argument.ofString "--at=" ++ v).Names .cursor (some v) := by
  have hcut : Argument.cut '=' (some 'a' :: some 't' :: some '=' :: v) =
      ([some 'a', some 't'], some v) := by simp [Argument.cut]
  refine ⟨some 'a' :: some 't' :: some '=' :: v, by simp, rfl, ?_, ?_⟩
  · rw [hcut]
    exact names_at_text
  · rw [hcut]

/-! ## Requests for help and for the version -/

/-- An argument that asks for help or for the version, and how the reading stops there. Behind a
letter nothing counts. -/
inductive Argument.Asks : Argument → Stop → Prop
  | help : Asks (.ofString "--help") (.help true)
  | version : Asks (.ofString "--version") .version
  | helpLetter (rest : Argument) : Asks (some '-' :: some 'h' :: rest) (.help false)
  | versionLetter (rest : Argument) : Asks (some '-' :: some 'V' :: rest) .version

/-- A stop that is no fault. -/
def Stop.Request (stop : Stop) : Prop :=
  ∀ f, stop ≠ .fault f

/-- Only requests are asked for. -/
theorem Argument.Asks.request {a : Argument} {stop : Stop} (h : a.Asks stop) : stop.Request := by
  cases h <;> nofun

/-- Arguments that ask for something have one of two names, or one of two letters behind a dash. -/
theorem Argument.Asks.form {a : Argument} {stop : Stop} (h : a.Asks stop) :
    a = .ofString "--help" ∨ a = .ofString "--version" ∨ a[1]? = some (some 'h') ∨
      a[1]? = some (some 'V') := by
  cases h <;> simp

/-- An argument that is a text has its characters. -/
theorem Argument.eq_map_some_of_text? {a : Argument} {text : String} (h : a.text? = some text) :
    a = text.toList.map some := by
  obtain ⟨s, hs, rfl⟩ := Option.map_eq_some_iff.mp h
  rw [Text.whole?_eq_some_iff.mp hs, String.toList_ofList]

/-- An argument without the character it is cut at stays whole. -/
theorem Argument.cut_eq_self {c : Char} {a : Argument} (h : (Argument.cut c a).2 = none) :
    (Argument.cut c a).1 = a := by
  induction a with
  | nil => rfl
  | cons x a ih =>
      simp only [Argument.cut] at h ⊢
      split at h
      · cases h
      · rename_i hx
        rw [if_neg hx]
        exact congrArg (x :: ·) (ih h)

/-- An option that is named without a value is its name behind two dashes. -/
theorem Argument.Names.eq_ofString {a : Argument} {flag : Flag} (h : a.Names flag none) :
    a = .ofString ("--" ++ flag.long) := by
  obtain ⟨rest, -, rfl, hname, hvalue⟩ := h
  rw [Argument.cut_eq_self hvalue] at hname
  obtain ⟨name, htext, hflag⟩ := Option.bind_eq_some_iff.mp hname
  have hlong : flag.long = name := by simpa using List.find?_some hflag
  rw [Argument.eq_map_some_of_text? htext, hlong, Argument.ofString, String.toList_append,
    List.map_append]
  rfl

namespace Progress

/-- A request comes from behind what was settled. -/
theorem bind_orStop_eq_request_iff {α : Type} {x : Progress × Option UsageFault}
    {f : Progress → Except Stop α} {stop : Stop} (hstop : stop.Request) :
    (orStop x >>= f) = .error stop ↔ ∃ q, x = (q, none) ∧ f q = .error stop := by
  rcases x with ⟨p, _ | fault⟩
  · simp [orStop, bind, Except.bind]
  · simpa [orStop, bind, Except.bind] using (hstop fault).symm

/-- What is taken in makes no request. -/
theorem orStop_ne_request {x : Progress × Option UsageFault} {stop : Stop} (hstop : stop.Request) :
    orStop x ≠ .error stop := by
  rcases x with ⟨p, _ | fault⟩
  · nofun
  · simpa [orStop] using (hstop fault).symm

/-- An argument that is no option makes no request. -/
theorem plain_ne_request {p : Progress} {a : Argument} {stop : Stop} (hstop : stop.Request) :
    p.plain a ≠ .error stop := by
  intro h
  simp only [plain] at h
  split at h
  · exact hstop _ (Except.error.inj h).symm
  · obtain ⟨q, -, hq⟩ := (bind_orStop_eq_request_iff hstop).mp h
    cases hq

/-- Of the options without a value, two are requests. -/
theorem switch_eq_request {p : Progress} {flag : Flag} {long : Bool} {stop : Stop}
    (hstop : stop.Request) (h : p.switch flag long = .error stop) :
    (∃ q, p.settle = (q, none)) ∧
      (flag = .help ∧ stop = .help long ∨ flag = .version ∧ stop = .version) := by
  rw [switch, bind_orStop_eq_request_iff hstop] at h
  obtain ⟨q, hsettle, hq⟩ := h
  refine ⟨⟨q, hsettle⟩, ?_⟩
  cases flag with
  | help => exact .inl ⟨rfl, (Except.error.inj hq).symm⟩
  | version => exact .inr ⟨rfl, (Except.error.inj hq).symm⟩
  | _ => exact absurd hq (orStop_ne_request hstop)

/-- A request by its name has no value attached. -/
theorem longOption_eq_request {p : Progress} {name : Argument} {value : Option Argument}
    {stop : Stop} (hstop : stop.Request) (h : p.longOption name value = .error stop) :
    ∃ flag, name.text?.bind Flag.ofLong? = some flag ∧ value = none ∧
      p.switch flag true = .error stop := by
  cases hname : name.text?.bind Flag.ofLong? with
  | none =>
      simp only [longOption, hname] at h
      exact absurd (Except.error.inj h).symm (hstop _)
  | some flag =>
      refine ⟨flag, rfl, ?_⟩
      cases htakes : flag.takesValue with
      | true =>
          obtain ⟨hnone, hsome⟩ := longOption_of_takesValue (p := p) hname htakes
          cases value with
          | none =>
              rw [hnone, bind_orStop_eq_request_iff hstop] at h
              obtain ⟨q, -, hq⟩ := h
              cases hq
          | some v =>
              rw [hsome v, bind_orStop_eq_request_iff hstop] at h
              obtain ⟨q, -, hq⟩ := h
              exact absurd hq (orStop_ne_request hstop)
      | false =>
          obtain ⟨hnone, hsome⟩ := longOption_of_takes_no_value (p := p) hname htakes
          cases value with
          | none => exact ⟨rfl, hnone ▸ h⟩
          | some v =>
              obtain ⟨f, hf⟩ := hsome v
              rw [hf] at h
              exact absurd (Except.error.inj h).symm (hstop f)

/-- A request by letters has its letter behind the dash. -/
theorem shortOptions_eq_request {p : Progress} {letters : Argument} {stop : Stop}
    (hstop : stop.Request) (h : p.shortOptions letters = .error stop) :
    (∃ q, p.settle = (q, none)) ∧ Argument.Asks (some '-' :: letters) stop := by
  simp only [shortOptions] at h
  split at h
  · obtain ⟨hsettle, ⟨-, rfl⟩ | ⟨hflag, -⟩⟩ := switch_eq_request hstop h
    · exact ⟨hsettle, .helpLetter _⟩
    · cases hflag
  · obtain ⟨hsettle, ⟨hflag, -⟩ | ⟨-, rfl⟩⟩ := switch_eq_request hstop h
    · cases hflag
    · exact ⟨hsettle, .versionLetter _⟩
  · exact absurd (Except.error.inj h).symm (hstop _)
  · exact absurd (Except.error.inj h).symm (hstop _)

/-- One argument is a request exactly if it asks for something before the options end, and what is
pending can be taken in. -/
theorem step_eq_request_iff {p : Progress} {a : Argument} {stop : Stop} (hstop : stop.Request) :
    p.step a = .error stop ↔
      p.optionsEnded = false ∧ (∃ q, p.settle = (q, none)) ∧ a.Asks stop := by
  constructor
  · intro h
    simp only [step] at h
    split at h
    · exact absurd h (plain_ne_request hstop)
    · rename_i hended
      refine ⟨Bool.eq_false_iff.mpr hended, ?_⟩
      split at h
      · cases h
      · rename_i rest hne
        have hrest : rest ≠ [] := by
          rintro rfl
          exact hne rfl
        obtain ⟨flag, hname, hvalue, hswitch⟩ := longOption_eq_request hstop h
        obtain ⟨hsettle, hflag⟩ := switch_eq_request hstop hswitch
        have hnames : Argument.Names (some '-' :: some '-' :: rest) flag none :=
          ⟨rest, hrest, rfl, hname, hvalue⟩
        refine ⟨hsettle, ?_⟩
        rw [hnames.eq_ofString]
        rcases hflag with ⟨rfl, rfl⟩ | ⟨rfl, rfl⟩
        · exact .help
        · exact .version
      · exact shortOptions_eq_request hstop h
      · split at h
        · cases h
        · exact absurd h (plain_ne_request hstop)
  · rintro ⟨hended, ⟨q, hsettle⟩, hasks⟩
    cases hasks
    all_goals
      simp only [step, hended, Bool.false_eq_true, if_false]
      change (orStop p.settle >>= _) = _
      rw [hsettle]
      rfl

/-- The end of the arguments is no request. -/
theorem finish_ne_request {p : Progress} {stop : Stop} (hstop : stop.Request) :
    p.finish ≠ .error stop := by
  intro h
  rw [finish, bind_orStop_eq_request_iff hstop] at h
  obtain ⟨q, -, hq⟩ := h
  split at hq
  · exact hstop _ (Except.error.inj hq).symm
  · cases hq

end Progress

/-- A command line is a request exactly if an argument asks for something before the options end,
all arguments before it are accepted, and what is pending there can be taken in. -/
theorem Options.parse_eq_request_iff {arguments : List Argument} {stop : Stop}
    (hstop : stop.Request) :
    Options.parse arguments = .error stop ↔ ∃ before a after p, arguments = before ++ a :: after ∧
      before.foldlM Progress.step {} = .ok p ∧ [some '-', some '-'] ∉ before ∧
      (∃ q, p.settle = (q, none)) ∧ a.Asks stop := by
  have hfold : Options.parse arguments = .error stop ↔
      arguments.foldlM Progress.step {} = .error stop := by
    rw [Options.parse]
    cases arguments.foldlM Progress.step {} with
    | error stop' => simp [bind, Except.bind]
    | ok p =>
        simp only [bind, Except.bind, reduceCtorEq, iff_false]
        exact Progress.finish_ne_request hstop
  rw [hfold, foldlM_eq_error_iff]
  refine exists_congr fun before => exists_congr fun a => exists_congr fun after =>
    exists_congr fun p => and_congr_right fun _ => and_congr_right fun hp => ?_
  rw [Progress.step_eq_request_iff hstop, Progress.optionsEnded_eq_false_iff_of_foldlM hp]

/-! ## Command lines as a whole -/

/-- A command line is accepted exactly when every argument is, one after the other, and what they
leave can be finished. -/
theorem Options.parse_eq_ok_iff {arguments : List Argument} {o : Options} :
    Options.parse arguments = .ok o ↔
      ∃ p, arguments.foldlM Progress.step {} = .ok p ∧ p.finish = .ok o := by
  rw [Options.parse, bind_eq_ok_iff]

/-- A value of `--at` that is no cursor is pending, if it is accepted at all. -/
theorem Progress.spoilt_of_steps {q r : Progress} {v : Argument} (hv : v.NoCursor)
    (hstep : Steps { q with pending := some (.cursor, []), awaiting := true } v r) : r.Spoilt := by
  have hwanting : ∀ q' : Progress,
      Progress.settle { q with pending := some (.cursor, []), awaiting := true } ≠ (q', none) :=
    fun q' => settle_ne_ok_of_pending rfl (by simp)
  cases hstep with
  | ended => exact ⟨[], rfl, by simp, fun _ => rfl⟩
  | taken _ _ hsettle _ => exact absurd hsettle (hwanting _)
  | named _ _ _ hsettle => exact absurd hsettle (hwanting _)
  | value _ _ _ hpending =>
      cases hpending
      exact ⟨[v], rfl, by simp [hv], by simp⟩
  | input _ _ hsettle => exact absurd hsettle (hwanting _)

/-- No command line is accepted that gives `--at` a value which is no cursor. -/
theorem Options.parse_ne_ok_of_noCursor {before after : List Argument} {v : Argument}
    (hbefore : [some '-', some '-'] ∉ before) (hv : v.NoCursor) (o : Options) :
    Options.parse (before ++ .ofString "--at" :: v :: after) ≠ .ok o ∧
      Options.parse (before ++ (.ofString "--at=" ++ v) :: after) ≠ .ok o := by
  constructor
  · intro h
    obtain ⟨r, hfold, hfinish⟩ := Options.parse_eq_ok_iff.mp h
    obtain ⟨p, hp, htail⟩ := foldlM_append_eq_ok_iff.mp hfold
    obtain ⟨p₁, hp₁, htail⟩ := foldlM_cons_eq_ok_iff.mp htail
    obtain ⟨p₂, hp₂, hafter⟩ := foldlM_cons_eq_ok_iff.mp htail
    have hended := (Progress.optionsEnded_eq_false_iff_of_foldlM hp).mpr hbefore
    rw [Progress.step_of_names hended names_at rfl, Progress.bind_orStop_eq_ok_iff] at hp₁
    obtain ⟨q, -, hq⟩ := hp₁
    cases hq
    have hspoilt : p₂.Spoilt := Progress.spoilt_of_steps hv (Progress.step_eq_ok_iff.mp hp₂)
    -- no argument behind it takes the value off again
    have hspoilt : r.Spoilt := of_foldlM_eq_ok
      (fun _ _ _ _ hstep hp => hp.steps (Progress.step_eq_ok_iff.mp hstep)) hafter hspoilt
    exact hspoilt.finish_ne_ok hfinish
  · intro h
    obtain ⟨r, hfold, -⟩ := Options.parse_eq_ok_iff.mp h
    obtain ⟨p, hp, htail⟩ := foldlM_append_eq_ok_iff.mp hfold
    obtain ⟨p₁, hp₁, -⟩ := foldlM_cons_eq_ok_iff.mp htail
    have hended := (Progress.optionsEnded_eq_false_iff_of_foldlM hp).mpr hbefore
    rw [Progress.step_of_names_attached hended (names_at_attached v) rfl,
      Progress.bind_orStop_eq_ok_iff] at hp₁
    obtain ⟨q, -, hq⟩ := hp₁
    exact Progress.take_cursor_ne_ok (by simp [hv]) (Progress.orStop_eq_ok_iff.mp hq)

end QuickFix.Command
