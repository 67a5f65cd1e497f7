import QuickFix.Rule.Basic

/-!
# The catalog of fixes

The actions found so far, for every file in the order they were found. Surveying a site tries the
rules on each of its lines and enters the first answer of each.
-/

set_option autoImplicit false

namespace QuickFix

/-- An action and the range of the file it is offered at. -/
structure Entry where
  range : Range
  action : Action

/-- Entries with the files they belong to, oldest first. -/
structure Catalog where
  rows : List (Uri × Entry)

namespace Catalog

/-- The catalog without entries. -/
def empty : Catalog :=
  ⟨[]⟩

/-- The catalog with one more entry for a file. -/
def add (c : Catalog) (uri : Uri) (entry : Entry) : Catalog :=
  ⟨c.rows ++ [(uri, entry)]⟩

/-- The entries of a file. -/
def entries (c : Catalog) (uri : Uri) : List Entry :=
  c.rows.filterMap fun row => if row.1 = uri then some row.2 else none

/-- The actions of a file whose range holds a position. -/
def actionsAt (c : Catalog) (uri : Uri) (p : Position) : List Action :=
  ((c.entries uri).filter fun e => e.range.contains p).map Entry.action

/-- The catalog without the entries of a file. -/
def clearFile (c : Catalog) (uri : Uri) : Catalog :=
  ⟨c.rows.filter fun row => row.1 ≠ uri⟩

/-- The number of entries of all files. -/
def size (c : Catalog) : Nat :=
  c.rows.length

/-- Whether no file has an entry. -/
def isEmpty (c : Catalog) : Bool :=
  c.rows.isEmpty

end Catalog

namespace Site

/-- The first rule that answers on a line, with its action. -/
def answer? (site : Site) (i : Nat) : Option (Rule × Action) :=
  Rule.priority.findSome? fun rule => (rule.fix? site i).map fun action => (rule, action)

/-- The answer on each line. -/
def answers (site : Site) : List (Option (Rule × Action)) :=
  (List.range site.lines.length).map site.answer?

/-- The entries that a site gives rise to. -/
def entries (site : Site) : List Entry :=
  site.answers.filterMap fun answer => answer.map fun r => ⟨site.range, r.2⟩

end Site

namespace Catalog

/-- The catalog with the entries of a site, and their number. -/
def survey (c : Catalog) (site : Site) : Catalog × Nat :=
  (site.entries.foldl (fun c e => c.add site.uri e) c, site.entries.length)

/-- The catalog with the entries of a file's diagnostics, and their number. -/
def surveyAll (c : Catalog) (uri : Uri) (ds : List Diagnostic) : Catalog × Nat :=
  ds.foldl (fun (c, n) d =>
    let (c, m) := c.survey (Site.ofDiagnostic d uri)
    (c, n + m)) (c, 0)

end Catalog

end QuickFix
