import QuickFix.Diagnostic.Decode
import QuickFix.Diagnostic.Encode
import QuickFix.Proofs.Json.Record
import QuickFix.Proofs.Uri.Reference

/-!
# Diagnostics that are written and read again

Each record of a diagnostic is read as it was written, from positions up to whole diagnostics
(`takes_diagnostic`). Only the data of a diagnostic asks for something: it has to have the shape of
a value that was read, and to hold no double. The first is what reading a report provides
(`Report.dataDecoded_of_parse`).
-/

set_option autoImplicit false

namespace QuickFix

open Json (Decoded Filled Layout Reader Record Takes Whole length_item_le length_member_le
  write)

variable {rounds levels : Nat} {l : Layout} (hl : l.Spaced) {depth : Nat}

include hl

/-- A written position is taken for itself. -/
theorem takes_position (p : Position) (h : (write l depth p.toJson).length ≤ rounds) :
    Takes (positionRecord.read rounds (levels + 1)) (write l depth p.toJson) p :=
  Record.takes_write_two hl rfl rfl (Json.takes_word32 l _ p.line)
    (Json.takes_word32 l _ p.character) rfl rfl rfl h

/-- A written range is taken for itself. -/
theorem takes_range (r : Range) (h : (write l depth r.toJson).length ≤ rounds) :
    Takes ((rangeRecord rounds).read rounds (levels + 2)) (write l depth r.toJson) r := by
  have hstart : Takes (positionRecord.read rounds (levels + 1))
      (write l (depth + 1) r.start.toJson) r.start :=
    takes_position hl r.start (length_member_le List.mem_cons_self h)
  have hstop : Takes (positionRecord.read rounds (levels + 1))
      (write l (depth + 1) r.stop.toJson) r.stop :=
    takes_position hl r.stop (length_member_le (List.mem_cons_of_mem _ List.mem_cons_self) h)
  exact Record.takes_write_two hl rfl rfl hstart hstop rfl rfl rfl h

omit hl in
/-- A string is taken for its text wherever it is written. -/
theorem takes_text (s : String) : Takes Json.text (write l depth (.string s)) s := by
  rw [write]
  exact Json.takes_text s

omit hl in
/-- A written URI is taken for itself. -/
theorem takes_uri (u : Uri) : Takes readUri (write l depth (.string u.text)) u := by
  have htext : Takes Json.text (write l depth (.string u.text)) u.text := takes_text u.text
  refine ⟨htext.begins, fun gap rest hgap hrest => ?_⟩
  simp [readUri, htext.reads gap rest hgap hrest, Uri.parse_text, bind, Except.bind]

/-- A written location is taken for itself. -/
theorem takes_location (x : Location) (h : (write l depth x.toJson).length ≤ rounds) :
    Takes ((locationRecord rounds).read rounds (levels + 3)) (write l depth x.toJson) x := by
  have hrange : Takes ((rangeRecord rounds).read rounds (levels + 2))
      (write l (depth + 1) x.range.toJson) x.range :=
    takes_range hl x.range (length_member_le (List.mem_cons_of_mem _ List.mem_cons_self) h)
  exact Record.takes_write_two hl rfl rfl (takes_uri x.uri) hrange rfl rfl rfl h

/-- A written piece of related information is taken for itself. -/
theorem takes_related (x : RelatedInformation) (h : (write l depth x.toJson).length ≤ rounds) :
    Takes ((relatedRecord rounds).read rounds (levels + 4)) (write l depth x.toJson) x := by
  have hlocation : Takes ((locationRecord rounds).read rounds (levels + 3))
      (write l (depth + 1) x.location.toJson) x.location :=
    takes_location hl x.location (length_member_le List.mem_cons_self h)
  exact Record.takes_write_two hl rfl rfl hlocation (takes_text x.message) rfl rfl rfl h

/-! ## Fields that may be missing -/

omit hl in
/-- Only `null` is written with the letter it begins with. -/
theorem write_ne_null {v : Json} (hnull : v ≠ .null) (hfloat : ∀ x, v ≠ .number (.float x))
    (t : List Char) : write l depth v ≠ 'n' :: t := by
  intro hn
  cases v with
  | null => exact hnull rfl
  | bool b => cases b <;> rw [write] at hn <;> cases hn
  | number n =>
      rw [write] at hn
      cases n with
      | natural n =>
          have hdigit : Numeral.isDigit 'n' = true :=
            Numeral.isDigit_of_mem_digits (hn ▸ List.mem_cons_self)
          revert hdigit
          decide
      | negative n => cases hn
      | float x => exact hfloat x rfl
  | string s =>
      rw [write] at hn
      cases hn
  | array vs =>
      rw [Json.write_array] at hn
      cases hn
  | object ms =>
      rw [Json.write_object] at hn
      cases hn

omit hl in
/-- No written integer looks like `null`. -/
theorem write_ofInt_ne_null (i : Int) (t : List Char) : write l depth (.ofInt i) ≠ 'n' :: t := by
  cases i with
  | ofNat n => exact write_ne_null (by nofun) (by nofun) t
  | negSucc n => exact write_ne_null (by nofun) (by nofun) t

/-- A field that may be missing or `null` is filled in if it is there. The drafts before and after
differ in that field alone, which `put` sets. -/
theorem filled_optionalMember {δ β : Type} (put : Option (Option β) → δ)
    {fields : List (Json.Field δ)} {name : String} {get : δ → Option (Option β)}
    {set : δ → Option β → δ} {reader : (levels : Nat) → Reader β} {mayLack : Bool}
    (hfind : (fields.find? fun f => f.name == name) =
      some (.of name get set (fun levels => Json.optional (reader levels)) mayLack))
    {d : δ} {encode : β → Json} {o : Option β}
    (hlength : ∀ m ∈ optionalMember name encode o, (write l depth m.2).length ≤ rounds)
    (h : ∀ b, o = some b → (write l depth (encode b)).length ≤ rounds →
      Takes (reader levels) (write l depth (encode b)) b)
    (hnull : ∀ b, o = some b → ∀ t, write l depth (encode b) ≠ 'n' :: t)
    (hunset : get d = none) (hnone : put none = d)
    (hsome : ∀ b, put (some (some b)) = set d (some b)) :
    Filled (Json.fieldStep rounds fields levels) l.colon (write l depth) d
      (optionalMember name encode o) (put (o.map some)) := by
  cases o with
  | none =>
      rw [Option.map_none, hnone]
      exact .nil d
  | some b =>
      have htakes := h b rfl (hlength (name, encode b) List.mem_cons_self)
      exact Json.filled_field hl hfind (htakes.optional (hnull b rfl)) hunset (hsome b).symm

omit hl in
/-- A code is found again in its value. -/
theorem DiagnosticCode.ofJson?_toJson (c : DiagnosticCode) :
    DiagnosticCode.ofJson? c.toJson = some c := by
  cases c with
  | name s => rfl
  | number n =>
      have hlow : -0x80000000 ≤ n.toInt := n.le_toInt
      have hhigh : n.toInt < 0x80000000 := n.toInt_lt
      rcases Json.ofInt_toInt n with ⟨m, hm, hvalue⟩ | ⟨m, hm, hvalue⟩
      · have hfits : m.toNat < 0x80000000 := by omega
        simp [toJson, hm, ofJson?, hfits, hvalue]
      · have hfits : m.val < 0x80000000 := by omega
        simp [toJson, hm, ofJson?, hfits, hvalue]

omit hl in
/-- No written code looks like `null`. -/
theorem write_code_ne_null (c : DiagnosticCode) (t : List Char) :
    write l depth c.toJson ≠ 'n' :: t := by
  cases c with
  | number n => exact write_ofInt_ne_null n.toInt t
  | name s => exact write_ne_null (by nofun) (by nofun) t

/-- A written code is taken for itself. -/
theorem takes_code (c : DiagnosticCode) (h : (write l depth c.toJson).length ≤ rounds) :
    Takes (readCode rounds levels) (write l depth c.toJson) c := by
  have hvalue : Takes (Json.value rounds levels) (write l depth c.toJson) c.toJson := by
    cases c with
    | name s => exact Json.takes_value hl (.string s) (.string s) h
    | number n =>
        rcases Json.ofInt_toInt n with ⟨m, hm, -⟩ | ⟨m, hm, -⟩
        · rw [DiagnosticCode.toJson, hm] at h ⊢
          exact Json.takes_value hl (.number _) (.natural m) h
        · rw [DiagnosticCode.toJson, hm] at h ⊢
          exact Json.takes_value hl (.number _) (.negative m) h
  refine ⟨hvalue.begins, fun gap rest hgap hrest => ?_⟩
  simp [readCode, hvalue.reads gap rest hgap hrest, c.ofJson?_toJson, bind, Except.bind]

/-- A written description of a code is taken for its URI. -/
theorem takes_codeDescription (u : Uri)
    (h : (write l depth (.object [("href", .string u.text)])).length ≤ rounds) :
    Takes (codeDescriptionRecord.read rounds (levels + 1))
      (write l depth (.object [("href", .string u.text)])) u :=
  Record.takes_write hl (Json.filled_field hl rfl (takes_uri u) rfl rfl) rfl h

/-- A written list of related information is taken for itself. -/
theorem takes_relatedInformation (xs : List RelatedInformation)
    (h : (write l depth (.array (xs.map RelatedInformation.toJson))).length ≤ rounds) :
    Takes (Json.list rounds ((relatedRecord rounds).read rounds) (levels + 5))
      (write l depth (.array (xs.map RelatedInformation.toJson))) xs := by
  refine Json.takes_list hl (fun x hx => ?_) h
  exact takes_related hl x (length_item_le (List.mem_map_of_mem hx) h)

/-- A written list of tags is taken for itself. -/
theorem takes_tags (ns : List Int32)
    (h : (write l depth (.array (ns.map fun n => .ofInt n.toInt))).length ≤ rounds) :
    Takes (Json.list rounds (fun _ => Json.int32) (levels + 1))
      (write l depth (.array (ns.map fun n => .ofInt n.toInt))) ns :=
  Json.takes_list hl (fun n _ => Json.takes_int32 l _ n) h

/-! ## Diagnostics -/

/-- The data of a diagnostic have the shape of a value that was read, and are not `null`. -/
def Diagnostic.DataDecoded (levels : Nat) (d : Diagnostic) : Prop :=
  ∀ v, d.data = some v → Decoded levels v ∧ v ≠ .null

/-- The data of a diagnostic hold no double. -/
def Diagnostic.DataWhole (d : Diagnostic) : Prop :=
  ∀ v, d.data = some v → Whole v

/-- The draft that the members of a written diagnostic leave. -/
def Diagnostic.draft (d : Diagnostic) : DiagnosticDraft :=
  { range := some d.range
    severity := d.severity.map some
    code := d.code.map some
    codeDescription := d.codeDescription.map some
    source := d.source.map some
    message := some d.message
    relatedInformation := d.relatedInformation.map some
    tags := d.tags.map some
    data := d.data.map some }

omit hl in
/-- The draft that a written diagnostic leaves is finished as that diagnostic. -/
theorem Diagnostic.finish_draft (d : Diagnostic) :
    (diagnosticRecord rounds).finish d.draft = .ok d := by
  have hjoin : ∀ {α : Type} (o : Option α), (o.map some).join = o := by
    intro α o
    cases o <;> rfl
  simp [diagnosticRecord, draft, required, bind, Except.bind, hjoin]

/-- A written diagnostic is taken for itself when its data can be read back. -/
theorem takes_diagnostic (d : Diagnostic) (hdecoded : d.DataDecoded (levels + 5))
    (hwhole : d.DataWhole) (h : (write l depth d.toJson).length ≤ rounds) :
    Takes ((diagnosticRecord rounds).read rounds (levels + 6)) (write l depth d.toJson) d := by
  have hmembers := fun m hm => length_member_le (m := m) hm h
  simp only [List.forall_mem_append] at hmembers
  obtain ⟨⟨⟨⟨⟨⟨⟨⟨hrange, hseverity⟩, hcode⟩, hdescription⟩, hsource⟩, -⟩, hrelated⟩, htags⟩,
    hdata⟩ := hmembers
  -- the drafts on the way, each with one field more
  let d₁ : DiagnosticDraft := { range := some d.range }
  let d₂ : DiagnosticDraft := { d₁ with severity := d.severity.map some }
  let d₃ : DiagnosticDraft := { d₂ with code := d.code.map some }
  let d₄ : DiagnosticDraft := { d₃ with codeDescription := d.codeDescription.map some }
  let d₅ : DiagnosticDraft := { d₄ with source := d.source.map some }
  let d₆ : DiagnosticDraft := { d₅ with message := some d.message }
  let d₇ : DiagnosticDraft := { d₆ with relatedInformation := d.relatedInformation.map some }
  let d₈ : DiagnosticDraft := { d₇ with tags := d.tags.map some }
  let step := Json.fieldStep rounds (diagnosticRecord rounds).fields (levels + 5)
  let text := write l (depth + 1)
  have h₁ : Filled step l.colon text {} [("range", d.range.toJson)] d₁ :=
    Json.filled_field hl rfl (takes_range hl d.range (hrange _ List.mem_cons_self)) rfl rfl
  have h₂ : Filled step l.colon text d₁
      (optionalMember "severity" (fun n => .ofInt n.toInt) d.severity) d₂ :=
    filled_optionalMember hl (fun x => { d₁ with severity := x }) rfl hseverity
      (fun n _ _ => Json.takes_int32 l _ n) (fun n _ => write_ofInt_ne_null n.toInt)
      rfl rfl (fun _ => rfl)
  have h₃ : Filled step l.colon text d₂ (optionalMember "code" DiagnosticCode.toJson d.code) d₃ :=
    filled_optionalMember hl (fun x => { d₂ with code := x }) rfl hcode
      (fun c _ hc => takes_code hl c hc) (fun c _ => write_code_ne_null c)
      rfl rfl (fun _ => rfl)
  have h₄ : Filled step l.colon text d₃ (optionalMember "codeDescription"
      (fun u => .object [("href", .string u.text)]) d.codeDescription) d₄ :=
    filled_optionalMember hl (fun x => { d₃ with codeDescription := x }) rfl hdescription
      (fun u _ hu => takes_codeDescription hl u hu)
      (fun u _ => write_ne_null (by nofun) (by nofun)) rfl rfl (fun _ => rfl)
  have h₅ : Filled step l.colon text d₄ (optionalMember "source" .string d.source) d₅ :=
    filled_optionalMember hl (fun x => { d₄ with source := x }) rfl hsource
      (fun s _ _ => takes_text s) (fun s _ => write_ne_null (by nofun) (by nofun))
      rfl rfl (fun _ => rfl)
  have h₆ : Filled step l.colon text d₅ [("message", .string d.message)] d₆ :=
    Json.filled_field hl rfl (takes_text d.message) rfl rfl
  have h₇ : Filled step l.colon text d₆ (optionalMember "relatedInformation"
      (fun xs => .array (xs.map RelatedInformation.toJson)) d.relatedInformation) d₇ :=
    filled_optionalMember hl (fun x => { d₆ with relatedInformation := x }) rfl hrelated
      (fun xs _ hxs => takes_relatedInformation hl xs hxs)
      (fun xs _ => write_ne_null (by nofun) (by nofun)) rfl rfl (fun _ => rfl)
  have h₈ : Filled step l.colon text d₇ (optionalMember "tags"
      (fun ns => .array (ns.map fun n => .ofInt n.toInt)) d.tags) d₈ :=
    filled_optionalMember hl (fun x => { d₇ with tags := x }) rfl htags
      (fun ns _ hns => takes_tags hl ns hns)
      (fun ns _ => write_ne_null (by nofun) (by nofun)) rfl rfl (fun _ => rfl)
  have h₉ : Filled step l.colon text d₈ (optionalMember "data" id d.data) d.draft :=
    filled_optionalMember hl (fun x => { d₈ with data := x }) rfl hdata
      (fun v hv hlength => Json.takes_value hl (hdecoded v hv).1 (hwhole v hv) hlength)
      (fun v hv => write_ne_null (hdecoded v hv).2 (hwhole v hv).ne_float)
      rfl rfl (fun _ => rfl)
  have hfilled := ((((((((h₁.append h₂).append h₃).append h₄).append h₅).append h₆).append
    h₇).append h₈).append h₉)
  exact Record.takes_write hl hfilled d.finish_draft h

/-! ## Reports -/

omit hl

/-- What the fields of a diagnostic keep of its draft. -/
def DiagnosticDraft.DataDecoded (levels : Nat) (draft : DiagnosticDraft) : Prop :=
  ∀ v, draft.data = some (some v) → Decoded levels v ∧ v ≠ .null

/-- The data of a diagnostic that was read have the shape of a value that was read. -/
theorem Diagnostic.dataDecoded_of_read {s rest : List Char} {d : Diagnostic}
    (h : (diagnosticRecord rounds).read rounds (levels + 1) s = .ok (d, rest)) :
    d.DataDecoded levels := by
  have hdata : ∀ (draft : DiagnosticDraft) o s rest,
      Json.optional (Json.value rounds levels) s = .ok (o, rest) → draft.DataDecoded levels →
      DiagnosticDraft.DataDecoded levels { draft with data := some o } := by
    intro draft o s rest hread _ v ho
    rw [Option.some.inj ho] at hread
    exact Json.of_optional_value hread
  have hfill : ∀ f ∈ (diagnosticRecord rounds).fields, ∀ draft s draft' rest,
      f.fill levels draft s = .ok (draft', rest) → draft.DataDecoded levels →
      draft'.DataDecoded levels := by
    simp only [diagnosticRecord, List.forall_mem_cons]
    refine ⟨?_, ?_, ?_, ?_, ?_, ?_, ?_, ?_, Json.Field.fill_of_eq_ok hdata, nofun⟩
    all_goals exact Json.Field.fill_of_eq_ok fun _ _ _ _ _ hdraft => hdraft
  obtain ⟨draft, hdraft, hfinish⟩ := Record.exists_draft_of_read (fun v hv => nomatch hv) hfill h
  obtain ⟨_, -, hfinish⟩ := bind_eq_ok_iff.mp hfinish
  obtain ⟨_, -, hfinish⟩ := bind_eq_ok_iff.mp hfinish
  cases hfinish
  exact fun v hv => hdraft v (Option.join_eq_some_iff.mp hv)

/-- What the fields of a report keep of its draft. -/
def ReportDraft.DataDecoded (levels : Nat) (draft : ReportDraft) : Prop :=
  ∀ ds, draft.diagnostics = some ds → ∀ d ∈ ds, d.DataDecoded levels

/-- The data of every diagnostic of a report that was read have the shape of a value that was
read. -/
theorem Report.dataDecoded_of_read {s rest : List Char} {report : Report}
    (h : (reportRecord rounds).read rounds (levels + 3) s = .ok (report, rest)) {d : Diagnostic}
    (hd : d ∈ report.diagnostics) : d.DataDecoded levels := by
  -- of the two fields, only the list of diagnostics matters
  have hlist : ∀ (draft : ReportDraft) ds s rest,
      Json.list rounds ((diagnosticRecord rounds).read rounds) (levels + 2) s = .ok (ds, rest) →
      draft.DataDecoded levels →
      ReportDraft.DataDecoded levels { draft with diagnostics := some ds } := by
    intro draft ds s rest hread _ ds' hds' d hd
    rw [← Option.some.inj hds'] at hd
    obtain ⟨s, rest, hread⟩ := Json.of_mem_list hread hd
    exact Diagnostic.dataDecoded_of_read hread
  have hfill : ∀ f ∈ (reportRecord rounds).fields, ∀ draft s draft' rest,
      f.fill (levels + 2) draft s = .ok (draft', rest) → draft.DataDecoded levels →
      draft'.DataDecoded levels := by
    simp only [reportRecord, List.forall_mem_cons]
    exact ⟨Json.Field.fill_of_eq_ok fun _ _ _ _ _ hdraft => hdraft,
      Json.Field.fill_of_eq_ok hlist, nofun⟩
  obtain ⟨draft, hdraft, hfinish⟩ := Record.exists_draft_of_read (fun v hv => nomatch hv) hfill h
  obtain ⟨_, -, hfinish⟩ := bind_eq_ok_iff.mp hfinish
  cases hfinish
  cases hdiagnostics : draft.diagnostics with
  | none => simp [hdiagnostics] at hd
  | some ds =>
      rw [hdiagnostics] at hd
      exact hdraft ds hdiagnostics d hd

/-- The data of a report's diagnostics: the three containers around them count as well. -/
theorem Report.dataDecoded_of_parse {text : List Char} {report : Report}
    (h : Report.parse text = .ok report) {d : Diagnostic} (hd : d ∈ report.diagnostics) :
    d.DataDecoded (Json.deepest - 3) := by
  obtain ⟨⟨_, rest⟩, hread, hend⟩ := bind_eq_ok_iff.mp h
  simp only at hend
  split at hend
  · cases hend
    exact Report.dataDecoded_of_read hread hd
  · cases hend

/-- A report with a given text for the list of its diagnostics. -/
def documentText (path : String) (diagnostics : List Char) : List Char :=
  '{' :: (Json.memberText [':'] "path" (Json.writeString path) ++
    ',' :: Json.memberText [':'] "diagnostics" diagnostics ++ ['}'])

/-- A report around the written list of diagnostics is read as exactly these diagnostics. -/
theorem Report.parse_documentText (hl : l.Spaced) (path : String) (ds : List Diagnostic)
    (hdecoded : ∀ d ∈ ds, d.DataDecoded (Json.deepest - 3)) (hwhole : ∀ d ∈ ds, d.DataWhole) :
    Report.parse (documentText path (write l depth (.array (ds.map Diagnostic.toJson)))) =
      .ok ⟨path, ds⟩ := by
  let printed := write l depth (.array (ds.map Diagnostic.toJson))
  -- reading has a round for each character of the whole document
  let n := (documentText path printed).length
  have hprinted : printed.length ≤ n := by
    simp only [n, documentText, Json.memberText, List.length_cons, List.length_append]
    omega
  have hlist : Takes (Json.list n ((diagnosticRecord n).read n) 126) printed ds :=
    Json.takes_list hl (fun d hd => takes_diagnostic hl d (hdecoded d hd) (hwhole d hd)
      (length_item_le (List.mem_map_of_mem hd) hprinted)) hprinted
  have hfilled : Filled (Json.fieldStep n (reportRecord n).fields 126) [':'] id {}
      [("path", Json.writeString path), ("diagnostics", printed)] ⟨some path, some ds⟩ :=
    (Json.filled_field Layout.spaced_compact rfl (Json.takes_text path) rfl rfl).append
      (Json.filled_field Layout.spaced_compact rfl hlist rfl rfl)
  have hread : Takes ((reportRecord n).read n Json.deepest) (documentText path printed)
      ⟨path, ds⟩ := by
    have htext : documentText path printed = '{' :: Json.enclosed [] [] '}'
        ([("path", Json.writeString path), ("diagnostics", printed)].map
          fun m => Json.memberText [':'] m.1 (id m.2)) := by
      simp [documentText, Json.enclosed]
    rw [htext]
    exact Record.takes_enclosed .nil .nil hfilled rfl (Nat.le_of_eq (congrArg _ htext.symm))
  have hdocument := hread.read Json.Stops.nil
  rw [List.append_nil] at hdocument
  change (Json.document ((reportRecord n).read n Json.deepest) (documentText path printed)) = _
  simp [Json.document, hdocument, Json.skipSpace, bind, Except.bind]

end QuickFix
