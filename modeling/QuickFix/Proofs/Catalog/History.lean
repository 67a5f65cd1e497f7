import Mathlib.Algebra.BigOperators.Group.Finset.Piecewise
import Mathlib.Data.List.DropRight
import QuickFix.Catalog
import QuickFix.Proofs.Concatenation

/-!
# The history of a catalog

A catalog is filled by single entries and by surveys, and emptied file by file or as a whole. This
file says what it holds after any number of such operations in any order: for each file, what the
operations since its last clearing contributed, one behind the other.

What a survey contributes is said by relations (`Site.LineGives`, `Site.Gives`,
`Operation.Contributes`) that name no search and no loop: on a line it is the answer of the first
rule of the priority list that has one. The ladder is

* `lineGives_iff`, `gives_iff` and `contributes_iff`: each relation holds of one list only, and the
  functions of the catalog compute it;
* `entries_perform`: what one operation does to the entries of one file, which is all that the
  statements about runs are proved from;
* `entries_after` and `entries_after_filter`: what a whole run leaves, and `size_eq_sum`: how the
  size counts it.

The history law at the end is assembled from these.
-/

set_option autoImplicit false

namespace QuickFix

/-! ## What lines and sites give -/

/-- The entries that a line of a site gives: one for the first rule that answers, none if no rule
does. -/
inductive Site.LineGives (site : Site) (i : Nat) : List Entry → Prop
  | answered {earlier later : List Rule} {rule : Rule} {action : Action} :
      Rule.priority = earlier ++ rule :: later →
      (∀ r ∈ earlier, r.fix? site i = none) →
      rule.fix? site i = some action →
      Site.LineGives site i [⟨site.range, action⟩]
  | unanswered :
      (∀ rule ∈ Rule.priority, rule.fix? site i = none) →
      Site.LineGives site i []

/-- The entries that a site gives: those of its lines, from the first line to the last. -/
def Site.Gives (site : Site) (es : List Entry) : Prop :=
  Concatenation site.LineGives (List.range site.lines.length) es

/-- A line is unanswered exactly when no rule has a fix there. -/
theorem Site.answer?_eq_none_iff (site : Site) (i : Nat) :
    site.answer? i = none ↔ ∀ rule ∈ Rule.priority, rule.fix? site i = none := by
  simp only [Site.answer?, List.findSome?_eq_none_iff, Option.map_eq_none_iff]

/-- The answer on a line is that of the first rule of the list that has one. -/
theorem Site.answer?_eq_some_iff (site : Site) (i : Nat) (rule : Rule) (action : Action) :
    site.answer? i = some (rule, action) ↔
      ∃ earlier later, Rule.priority = earlier ++ rule :: later ∧
        (∀ r ∈ earlier, r.fix? site i = none) ∧ rule.fix? site i = some action := by
  unfold Site.answer?
  rw [List.findSome?_eq_some_iff]
  constructor
  · rintro ⟨earlier, r, later, hsplit, hanswer, hearlier⟩
    obtain ⟨a, ha, hpair⟩ := Option.map_eq_some_iff.mp hanswer
    obtain ⟨rfl, rfl⟩ := Prod.mk.inj hpair
    refine ⟨earlier, later, hsplit, ?_, ha⟩
    intro r' hr'
    exact Option.map_eq_none_iff.mp (hearlier r' hr')
  · rintro ⟨earlier, later, hsplit, hearlier, hanswer⟩
    refine ⟨earlier, rule, later, hsplit, by simp [hanswer], ?_⟩
    intro r' hr'
    simp [hearlier r' hr']

/-- A line gives the entry of its answer, and nothing else. -/
theorem Site.lineGives_iff (site : Site) (i : Nat) (part : List Entry) :
    site.LineGives i part ↔
      part = ((site.answer? i).map fun r => (⟨site.range, r.2⟩ : Entry)).toList := by
  constructor
  · rintro (⟨hsplit, hearlier, hanswer⟩ | hnone)
    · rw [(site.answer?_eq_some_iff i _ _).mpr ⟨_, _, hsplit, hearlier, hanswer⟩]
      rfl
    · rw [(site.answer?_eq_none_iff i).mpr hnone]
      rfl
  · intro hpart
    subst hpart
    cases hanswer : site.answer? i with
    | none => exact .unanswered ((site.answer?_eq_none_iff i).mp hanswer)
    | some r =>
        obtain ⟨rule, action⟩ := r
        obtain ⟨earlier, later, hsplit, hearlier, hrule⟩ :=
          (site.answer?_eq_some_iff i rule action).mp hanswer
        exact .answered hsplit hearlier hrule

/-- A site gives the entries that are computed for it, and nothing else. -/
theorem Site.gives_iff (site : Site) (es : List Entry) : site.Gives es ↔ es = site.entries := by
  unfold Site.Gives
  rw [concatenation_iff_eq_flatMap site.lineGives_iff, Site.entries, Site.answers,
    List.filterMap_map, List.filterMap_eq_flatMap_toList]
  rfl

/-! ## Operations -/

/-- What can be done to a catalog. -/
inductive Operation
  | add (uri : Uri) (entry : Entry)
  | survey (site : Site)
  | surveyAll (uri : Uri) (diagnostics : List Diagnostic)
  | clearFile (uri : Uri)
  | clear

namespace Operation

/-- The catalog after an operation. -/
def perform (c : Catalog) : Operation → Catalog
  | add uri entry => c.add uri entry
  | survey site => (c.survey site).1
  | surveyAll uri diagnostics => (c.surveyAll uri diagnostics).1
  | clearFile uri => c.clearFile uri
  | clear => Catalog.empty

/-- The file an operation names, if it does not concern them all. -/
def file? : Operation → Option Uri
  | add uri _ => some uri
  | survey site => some site.uri
  | surveyAll uri _ => some uri
  | clearFile uri => some uri
  | clear => none

/-- Whether an operation clears a file. -/
def clears (uri : Uri) : Operation → Bool
  | clearFile cleared => cleared = uri
  | clear => true
  | _ => false

/-- Whether an operation names a file or concerns them all. -/
def concerns (uri : Uri) (op : Operation) : Bool :=
  op.file? = some uri || op.file? = none

/-- The entries that an operation contributes to a file. -/
inductive Contributes (uri : Uri) : Operation → List Entry → Prop
  | added {entry : Entry} : Contributes uri (add uri entry) [entry]
  | surveyed {site : Site} {es : List Entry} :
      site.uri = uri → site.Gives es → Contributes uri (survey site) es
  | surveyedAll {diagnostics : List Diagnostic} {es : List Entry} :
      Concatenation (fun d => (Site.ofDiagnostic d uri).Gives) diagnostics es →
      Contributes uri (surveyAll uri diagnostics) es
  | cleared {op : Operation} : op.clears uri = true → Contributes uri op []
  | elsewhere {op : Operation} {other : Uri} :
      op.file? = some other → other ≠ uri → Contributes uri op []

/-- What an operation contributes to a file, computed. -/
def contribution (uri : Uri) : Operation → List Entry
  | add file entry => if file = uri then [entry] else []
  | survey site => if site.uri = uri then site.entries else []
  | surveyAll file diagnostics =>
      if file = uri then diagnostics.flatMap fun d => (Site.ofDiagnostic d uri).entries else []
  | _ => []

end Operation

/-- The catalog after operations on an empty one. -/
def Catalog.after (ops : List Operation) : Catalog :=
  ops.foldl Operation.perform Catalog.empty

/-- What an operation contributes to a file is determined, and computed by `contribution`. -/
theorem Operation.contributes_iff (uri : Uri) (op : Operation) (es : List Entry) :
    op.Contributes uri es ↔ es = op.contribution uri := by
  have hall (diagnostics : List Diagnostic) :
      Concatenation (fun d => (Site.ofDiagnostic d uri).Gives) diagnostics es ↔
        es = diagnostics.flatMap fun d => (Site.ofDiagnostic d uri).entries :=
    concatenation_iff_eq_flatMap (fun d part => (Site.ofDiagnostic d uri).gives_iff part)
      diagnostics es
  constructor
  · intro h
    cases h with
    | added => simp [contribution]
    | surveyed hsite hes => simp [contribution, hsite, (Site.gives_iff _ es).mp hes]
    | surveyedAll hes => simpa [contribution] using (hall _).mp hes
    | cleared hclears => cases op <;> simp_all [contribution, clears]
    | elsewhere hfile hother => cases op <;> simp_all [contribution, file?]
  · intro h
    subst h
    by_cases hclears : op.clears uri = true
    · have hnone : op.contribution uri = [] := by
        cases op <;> simp_all [contribution, clears]
      rw [hnone]
      exact .cleared hclears
    · by_cases hfile : op.file? = some uri
      · cases op with
        | add file entry =>
            cases hfile
            simpa [contribution] using Contributes.added
        | survey site =>
            cases hfile
            exact .surveyed rfl ((Site.gives_iff site _).mpr (by simp [contribution]))
        | surveyAll file diagnostics =>
            cases hfile
            exact .surveyedAll ((hall diagnostics).mpr (by simp [contribution]))
        | clearFile file => cases hfile; simp [clears] at hclears
        | clear => simp [clears] at hclears
      · -- all operations that clear nothing name a file
        have hnone : op.contribution uri = [] := by
          cases op <;> simp_all [contribution, file?]
        have hother : ∃ other, op.file? = some other ∧ other ≠ uri := by
          cases op <;> simp_all [file?, clears]
        obtain ⟨other, hop, hne⟩ := hother
        rw [hnone]
        exact .elsewhere hop hne

/-! ## One operation -/

/-- An entry is added behind those of its file, and other files are left alone. -/
theorem Catalog.entries_add (c : Catalog) (file uri : Uri) (entry : Entry) :
    (c.add file entry).entries uri = c.entries uri ++ if file = uri then [entry] else [] := by
  unfold Catalog.entries Catalog.add
  rw [List.filterMap_append]
  by_cases h : file = uri <;> simp [h]

/-- Entries are added in their order behind those of their file, and other files are left alone. -/
theorem Catalog.entries_foldl_add (c : Catalog) (file uri : Uri) (es : List Entry) :
    (es.foldl (fun c e => c.add file e) c).entries uri =
      c.entries uri ++ if file = uri then es else [] := by
  induction es generalizing c with
  | nil => simp
  | cons e es ih =>
      rw [List.foldl_cons, ih, Catalog.entries_add]
      by_cases h : file = uri <;> simp [h]

/-- A survey puts the entries of its site behind those of the site's file. -/
theorem Catalog.entries_survey (c : Catalog) (site : Site) (uri : Uri) :
    (c.survey site).1.entries uri =
      c.entries uri ++ if site.uri = uri then site.entries else [] :=
  c.entries_foldl_add site.uri uri site.entries

/-- The surveys of several diagnostics, with the count that runs along: it grows by the number of
entries found, whatever it started from. -/
theorem Catalog.surveyAll_foldl (file : Uri) (ds : List Diagnostic) (c : Catalog) (n : Nat)
    (uri : Uri) :
    let r := ds.foldl (fun (c, n) d =>
      let (c, m) := Catalog.survey c (Site.ofDiagnostic d file)
      (c, n + m)) (c, n)
    r.1.entries uri = c.entries uri ++
        (if file = uri then ds.flatMap fun d => (Site.ofDiagnostic d file).entries else []) ∧
      r.2 = n + (ds.flatMap fun d => (Site.ofDiagnostic d file).entries).length := by
  induction ds generalizing c n with
  | nil => simp
  | cons d ds ih =>
      have hsurvey := c.entries_survey (Site.ofDiagnostic d file) uri
      have hcount : (c.survey (Site.ofDiagnostic d file)).2 =
          (Site.ofDiagnostic d file).entries.length := rfl
      obtain ⟨hentries, hnumber⟩ := ih (c.survey (Site.ofDiagnostic d file)).1
        (n + (c.survey (Site.ofDiagnostic d file)).2)
      simp only [List.foldl_cons]
      refine ⟨?_, ?_⟩
      · rw [hentries, hsurvey]
        by_cases h : file = uri <;> simp [h, Site.ofDiagnostic]
      · rw [hnumber, hcount, List.flatMap_cons, List.length_append]
        omega

/-- Clearing a file takes its entries away and leaves those of the others. -/
theorem Catalog.entries_clearFile (c : Catalog) (file uri : Uri) :
    (c.clearFile file).entries uri = if file = uri then [] else c.entries uri := by
  unfold Catalog.entries Catalog.clearFile
  rw [List.filterMap_filter]
  by_cases h : file = uri
  · subst h
    simp
  · rw [if_neg h]
    apply List.filterMap_congr
    intro row _
    by_cases hrow : row.1 = uri
    · simp [hrow, Ne.symm h]
    · simp [hrow]

/-- What one operation does to the entries of a file: it takes them all away if it clears the file,
and otherwise puts its contribution behind them. -/
theorem Catalog.entries_perform (c : Catalog) (op : Operation) (uri : Uri) :
    (op.perform c).entries uri =
      if op.clears uri then [] else c.entries uri ++ op.contribution uri := by
  cases op with
  | add file entry => exact c.entries_add file uri entry
  | survey site => exact c.entries_survey site uri
  | surveyAll file ds =>
      have h := (Catalog.surveyAll_foldl file ds c 0 uri).1
      simp only [Operation.perform, Operation.clears, Operation.contribution, Catalog.surveyAll]
      rw [h]
      by_cases hfile : file = uri <;> simp [hfile]
  | clearFile file =>
      simp only [Operation.perform, Operation.clears, Operation.contribution]
      rw [c.entries_clearFile]
      by_cases hfile : file = uri <;> simp [hfile]
  | clear => rfl

/-! ## Runs -/

/-- The last operation is performed on what those before it leave. -/
theorem Catalog.after_concat (ops : List Operation) (op : Operation) :
    Catalog.after (ops ++ [op]) = op.perform (Catalog.after ops) := by
  simp [Catalog.after]

/-- After a run a file has what the operations since its last clearing contributed. -/
theorem Catalog.entries_after (ops : List Operation) (uri : Uri) :
    (Catalog.after ops).entries uri =
      (ops.rtakeWhile fun op => !op.clears uri).flatMap (Operation.contribution uri) := by
  induction ops using List.reverseRecOn with
  | nil => rfl
  | append_singleton ops op ih =>
      rw [Catalog.after_concat, Catalog.entries_perform, List.rtakeWhile_concat]
      by_cases h : op.clears uri = true
      · simp [h]
      · simp [h, ih]

/-- An operation that does not concern a file does not clear it and contributes nothing to it. -/
theorem Operation.of_not_concerns {uri : Uri} {op : Operation} (h : op.concerns uri = false) :
    op.clears uri = false ∧ op.contribution uri = [] := by
  cases op <;> simp_all [concerns, file?, clears, contribution]

/-- The operations that concern a file alone decide what the file has after a run. -/
theorem Catalog.entries_after_filter (ops : List Operation) (uri : Uri) :
    (Catalog.after (ops.filter (·.concerns uri))).entries uri =
      (Catalog.after ops).entries uri := by
  induction ops using List.reverseRecOn with
  | nil => rfl
  | append_singleton ops op ih =>
      rw [List.filter_append, Catalog.after_concat, Catalog.entries_perform, ← ih]
      by_cases h : op.concerns uri = true
      · rw [List.filter_cons_of_pos h, List.filter_nil, Catalog.after_concat,
          Catalog.entries_perform]
      · obtain ⟨hclears, hnone⟩ := Operation.of_not_concerns (Bool.eq_false_iff.mpr h)
        simp [h, hclears, hnone]

/-- A file that no operation names has no entries. -/
theorem Catalog.entries_after_eq_nil (ops : List Operation) (uri : Uri)
    (h : uri ∉ ops.filterMap Operation.file?) : (Catalog.after ops).entries uri = [] := by
  rw [Catalog.entries_after, List.flatMap_eq_nil_iff]
  intro op hop
  have hmem : op ∈ ops := (List.rtakeWhile_suffix _ _).subset hop
  have hfile : op.file? ≠ some uri := fun hsome => h (List.mem_filterMap.mpr ⟨op, hmem, hsome⟩)
  cases op <;> simp_all [Operation.file?, Operation.contribution]

/-- The size of a catalog is the sum of the numbers of entries over any set of files that holds
every file with an entry. -/
theorem Catalog.size_eq_sum (c : Catalog) (files : Finset Uri)
    (h : ∀ uri, c.entries uri ≠ [] → uri ∈ files) :
    c.size = ∑ uri ∈ files, (c.entries uri).length := by
  have hrows : ∀ row ∈ c.rows, row.1 ∈ files := by
    intro row hrow
    apply h
    have hentry : row.2 ∈ c.entries row.1 := List.mem_filterMap.mpr ⟨row, hrow, by simp⟩
    exact List.ne_nil_of_mem hentry
  unfold Catalog.size Catalog.entries
  generalize c.rows = rows at hrows
  induction rows with
  | nil => simp
  | cons row rows ih =>
      have hlength : ∀ uri,
          ((row :: rows).filterMap fun r => if r.1 = uri then some r.2 else none).length =
            (rows.filterMap fun r => if r.1 = uri then some r.2 else none).length +
              if row.1 = uri then 1 else 0 := by
        intro uri
        by_cases huri : row.1 = uri <;> simp [huri]
      simp only [hlength, Finset.sum_add_distrib, Finset.sum_ite_eq]
      rw [← ih fun r hr => hrows r (List.mem_cons_of_mem _ hr), if_pos (hrows row (by simp)),
        List.length_cons]

/-- **The history law.** After any operations on an empty catalog, the entries of a file are exactly
what the operations since its last clearing contributed to it, in the order of the operations. A
survey answers the number of entries that it contributes. The size counts the entries of all files
that were ever named, and a catalog is empty exactly if its size is zero. The operations that
concern other files only could have been left out. -/
theorem Catalog.entries_after_history (ops : List Operation) :
    (∀ uri es,
      Concatenation (Operation.Contributes uri) (ops.rtakeWhile fun op => !op.clears uri) es ↔
        es = (Catalog.after ops).entries uri) ∧
    (∀ site, ∃ es, (Operation.survey site).Contributes site.uri es ∧
      ((Catalog.after ops).survey site).2 = es.length) ∧
    (∀ uri diagnostics, ∃ es, (Operation.surveyAll uri diagnostics).Contributes uri es ∧
      ((Catalog.after ops).surveyAll uri diagnostics).2 = es.length) ∧
    (Catalog.after ops).size =
      ∑ uri ∈ (ops.filterMap Operation.file?).toFinset,
        ((Catalog.after ops).entries uri).length ∧
    ((Catalog.after ops).isEmpty = true ↔ (Catalog.after ops).size = 0) ∧
    (∀ uri, (Catalog.after (ops.filter (·.concerns uri))).entries uri =
      (Catalog.after ops).entries uri) := by
  refine ⟨?_, ?_, ?_, ?_, ?_, Catalog.entries_after_filter ops⟩
  · intro uri es
    rw [concatenation_iff_eq_flatMap (Operation.contributes_iff uri), Catalog.entries_after]
  · intro site
    refine ⟨_, (Operation.contributes_iff _ _ _).mpr rfl, ?_⟩
    simp [Operation.contribution, Catalog.survey]
  · intro uri diagnostics
    refine ⟨_, (Operation.contributes_iff _ _ _).mpr rfl, ?_⟩
    have h := (Catalog.surveyAll_foldl uri diagnostics (Catalog.after ops) 0 uri).2
    simpa [Operation.contribution, Catalog.surveyAll] using h
  · apply Catalog.size_eq_sum
    intro uri hentries
    by_contra hmem
    rw [List.mem_toFinset] at hmem
    exact hentries (Catalog.entries_after_eq_nil ops uri hmem)
  · simp [Catalog.isEmpty, Catalog.size]

end QuickFix
