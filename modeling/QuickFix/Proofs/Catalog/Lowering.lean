import QuickFix.Proofs.Catalog.History
import QuickFix.Proofs.Catalog.Message
import QuickFix.Proofs.Rule.Lowering

/-!
# Fixes move with the code

A survey of the same lines for a range further down finds the same fixes further down, entry by
entry (`Site.entries_lowered`). A line is answered by the same rule for both ranges, since each rule
answers for both or for none. So two catalogs that correspond for a file still do so after the two
surveys, and a look-up further down selects the counterparts of what it selects in the other
catalog (`Catalog.actionsAt_lowered`).
-/

set_option autoImplicit false

namespace QuickFix

/-- The same entry with its range and all edits `k` lines further down. -/
structure Entry.Lowered (k : Nat) (e f : Entry) : Prop where
  range : e.range.Lowered k f.range
  action : e.action.Lowered k f.action

variable {k : Nat}

/-! ## Surveys -/

/-- The second site has the lines of the first, for a range `k` lines further down in the same file.
Its diagnostic may be another one. -/
structure Site.Lowered (k : Nat) (site moved : Site) : Prop where
  lines : moved.lines = site.lines
  uri : moved.uri = site.uri
  range : site.range.Lowered k moved.range

/-- The fix of a rule moves down with the site. -/
theorem Site.Lowered.fix? {site moved : Site} (h : site.Lowered k moved) (rule : Rule) (i : Nat) :
    Option.Rel (Action.Lowered k) (rule.fix? site i) (rule.fix? moved i) := by
  unfold Rule.fix?
  rw [Rule.propose?_eq_bind, Rule.propose?_eq_bind, h.lines, h.uri]
  apply rel_map
  · exact rel_bind _ fun line => Rule.onLine?_lowered h.range rule line _ _
  · intro p q hpq
    exact hpq.toAction site.uri _ _

/-- A line is answered by the same rule for both ranges. -/
theorem Site.Lowered.answer? {site moved : Site} (h : site.Lowered k moved) (i : Nat) :
    Option.Rel (fun x y => y.1 = x.1 ∧ x.2.Lowered k y.2) (site.answer? i) (moved.answer? i) := by
  apply rel_findSome?
  intro rule
  apply rel_map (h.fix? rule i)
  intro a b hab
  exact ⟨rfl, hab⟩

/-- A site further down gives the same entries further down. -/
theorem Site.entries_lowered {site moved : Site} (h : site.Lowered k moved) :
    List.Forall₂ (Entry.Lowered k) site.entries moved.entries := by
  have hlength : moved.lines.length ≤ site.lines.length := by rw [h.lines]
  rw [site.entries_eq_filterMap_range (Nat.le_refl _), moved.entries_eq_filterMap_range hlength]
  apply List.rel_filterMap (R := Eq)
  · rintro i _ rfl
    apply rel_map (h.answer? i)
    intro x y hxy
    exact ⟨h.range, hxy.2⟩
  · exact List.forall₂_same.mpr fun i _ => rfl

/-! ## Catalogs -/

/-- The second catalog has for a file what the first has, `k` lines further down. -/
def Catalog.Lowered (k : Nat) (uri : Uri) (c c' : Catalog) : Prop :=
  List.Forall₂ (Entry.Lowered k) (c.entries uri) (c'.entries uri)

/-- A survey of a site further down adds the same entries further down. -/
theorem Catalog.lowered_survey {c c' : Catalog} {site moved : Site}
    (hc : Catalog.Lowered k site.uri c c') (h : site.Lowered k moved) :
    Catalog.Lowered k site.uri (c.survey site).1 (c'.survey moved).1 := by
  unfold Catalog.Lowered
  rw [c.entries_survey, c'.entries_survey, if_pos rfl, if_pos h.uri]
  exact List.rel_append hc (Site.entries_lowered h)

/-- An entry is selected further down exactly if its counterpart is selected. -/
theorem Catalog.contains_lowered {c c' : Catalog} {uri : Uri} (h : Catalog.Lowered k uri c c')
    {p q : Position} (hp : p.Lowered k q) :
    List.Forall₂ (fun e f => f.range.contains q = e.range.contains p) (c.entries uri)
      (c'.entries uri) :=
  List.Forall₂.imp (fun _ _ hef => hef.range.contains_eq hp) h

/-- The actions at a position move down with the position. -/
theorem Catalog.actionsAt_lowered {c c' : Catalog} {uri : Uri} (h : Catalog.Lowered k uri c c')
    {p q : Position} (hp : p.Lowered k q) :
    List.Forall₂ (Action.Lowered k) (c.actionsAt uri p) (c'.actionsAt uri q) := by
  unfold Catalog.actionsAt
  apply List.rel_map (R := Entry.Lowered k)
  · intro e f hef
    exact hef.action
  · apply List.rel_filter _ h
    intro e f hef
    show e.range.contains p = true ↔ f.range.contains q = true
    rw [hef.range.contains_eq hp]

/-- **Fixes move with the code.** Surveys of the same lines for a range and for the range `k` lines
further down, if there is one, enter the same number of entries into any two catalogs. These
correspond one by one: titles and texts are the same, and ranges and edits are `k` lines further
down in the same columns. In two catalogs that corresponded before, such as empty ones, a look-up
`k` lines further down selects exactly the counterparts of the entries that are selected here. -/
theorem Catalog.survey_down (site : Site) (d : Diagnostic) (k : Nat)
    (hstart : site.range.start.line.toNat + k ≤ 4294967295)
    (hstop : site.range.stop.line.toNat + k ≤ 4294967295) :
    let moved : Site := { site with diagnostic := d, range := site.range.down k }
    (∀ c c' : Catalog, ∃ found found',
      (c.survey site).1.entries site.uri = c.entries site.uri ++ found ∧
      (c.survey site).2 = found.length ∧
      (c'.survey moved).1.entries site.uri = c'.entries site.uri ++ found' ∧
      (c'.survey moved).2 = found'.length ∧ List.Forall₂ (Entry.Lowered k) found found') ∧
    ∀ c c' : Catalog, Catalog.Lowered k site.uri c c' →
      Catalog.Lowered k site.uri (c.survey site).1 (c'.survey moved).1 ∧
      ∀ p : Position, p.line.toNat + k ≤ 4294967295 →
        List.Forall₂ (fun e f => f.range.contains (p.down k) = e.range.contains p)
          ((c.survey site).1.entries site.uri) ((c'.survey moved).1.entries site.uri) ∧
        List.Forall₂ (Action.Lowered k) ((c.survey site).1.actionsAt site.uri p)
          ((c'.survey moved).1.actionsAt site.uri (p.down k)) := by
  intro moved
  have hmoved : site.Lowered k moved := ⟨rfl, rfl, Range.lowered_down hstart hstop⟩
  constructor
  · intro c c'
    have hentries := c.entries_survey site site.uri
    have hentries' := c'.entries_survey moved site.uri
    rw [if_pos rfl] at hentries hentries'
    exact ⟨site.entries, moved.entries, hentries, rfl, hentries', rfl, Site.entries_lowered hmoved⟩
  · intro c c' hc
    have hsurvey := Catalog.lowered_survey hc hmoved
    refine ⟨hsurvey, ?_⟩
    intro p hp
    have hbelow := Position.lowered_down hp
    exact ⟨Catalog.contains_lowered hsurvey hbelow, Catalog.actionsAt_lowered hsurvey hbelow⟩

/-- A record over two lines that is moved down as far as lines go, looked up in its last line. -/
theorem Catalog.survey_down_last :
    ∃ (site moved : Site) (action action' : Action),
      site.range = ⟨⟨0, 8⟩, ⟨1, 3⟩⟩ ∧ moved.range = ⟨⟨4294967294, 8⟩, ⟨4294967295, 3⟩⟩ ∧
      site.lines = ["Some record fields are undefined: a".toList] ∧ moved.lines = site.lines ∧
      (Catalog.empty.survey moved).2 = 1 ∧
      (Catalog.empty.survey site).1.actionsAt site.uri ⟨1, 0⟩ = [action] ∧
      (Catalog.empty.survey moved).1.actionsAt site.uri ⟨4294967295, 0⟩ = [action'] ∧
      action.Lowered 4294967294 action' := by
  let site : Site := .bare ["Some record fields are undefined: a".toList] ⟨⟨0, 8⟩, ⟨1, 3⟩⟩
  obtain ⟨hfound, hlookup⟩ :=
    Catalog.survey_down site site.diagnostic 4294967294 (by decide) (by decide)
  obtain ⟨found, found', -, hcount, -, hcount', hentries⟩ := hfound Catalog.empty Catalog.empty
  obtain ⟨-, hactions⟩ := (hlookup Catalog.empty Catalog.empty .nil).2 ⟨1, 0⟩ (by decide)
  obtain ⟨action, haction⟩ : ∃ action,
      (Catalog.empty.survey site).1.actionsAt site.uri ⟨1, 0⟩ = [action] := ⟨_, rfl⟩
  rw [haction] at hactions
  obtain ⟨action', rest, hlowered, hrest, haction'⟩ := List.forall₂_cons_left_iff.mp hactions
  rw [List.forall₂_nil_left_iff.mp hrest] at haction'
  refine ⟨site, { site with range := site.range.down 4294967294 }, action, action', rfl, by decide,
    rfl, rfl, ?_, haction, haction', hlowered⟩
  calc (Catalog.empty.survey { site with range := site.range.down 4294967294 }).2
      _ = found'.length := hcount'
      _ = found.length := hentries.length_eq.symm
      _ = (Catalog.empty.survey site).2 := hcount.symm
      _ = 1 := rfl

end QuickFix
