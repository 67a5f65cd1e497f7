import Mathlib.Data.List.Basic
import QuickFix.Catalog
import QuickFix.Proofs.Rule.Trigger

/-!
# The order in which the rules are tried

A survey tries the rules on each line in a fixed order and takes the first answer. This file says
that the order does not matter. `Catalog.surveyIn` is a survey in any order, and
`Catalog.surveyIn_priority` the one that is made.

Since the rules exclude each other, an order that has them all finds on every line the one rule that
answers (`Site.answerIn?_eq_some_iff`), so all such orders find the same.
-/

set_option autoImplicit false

namespace QuickFix

/-- The first rule of a list that answers on a line, with its action. -/
def Site.answerIn? (order : List Rule) (site : Site) (i : Nat) : Option (Rule × Action) :=
  order.findSome? fun rule => (rule.fix? site i).map fun action => (rule, action)

/-- The entries that a site gives rise to when the rules are tried in an order. -/
def Site.entriesIn (order : List Rule) (site : Site) : List Entry :=
  ((List.range site.lines.length).map (site.answerIn? order)).filterMap fun answer =>
    answer.map fun r => ⟨site.range, r.2⟩

/-- The survey of a site that tries the rules in an order. -/
def Catalog.surveyIn (order : List Rule) (c : Catalog) (site : Site) : Catalog × Nat :=
  ((site.entriesIn order).foldl (fun c e => c.add site.uri e) c, (site.entriesIn order).length)

/-- A survey tries the rules in the order of their priority. -/
theorem Catalog.surveyIn_priority (c : Catalog) (site : Site) :
    c.surveyIn Rule.priority site = c.survey site := rfl

/-- Every rule is tried. -/
theorem Rule.mem_priority (rule : Rule) : rule ∈ Rule.priority := by
  cases rule <;> decide

/-- An order with all rules finds on a line the rule that answers there. -/
theorem Site.answerIn?_eq_some_iff {order : List Rule} (hall : ∀ rule, rule ∈ order) (site : Site)
    (i : Nat) (rule : Rule) (action : Action) :
    site.answerIn? order i = some (rule, action) ↔ rule.fix? site i = some action := by
  have hsound : ∀ r a, site.answerIn? order i = some (r, a) → r.fix? site i = some a := by
    intro r a hfound
    obtain ⟨r', -, hr'⟩ := List.exists_of_findSome?_eq_some hfound
    obtain ⟨a', ha', hpair⟩ := Option.map_eq_some_iff.mp hr'
    obtain ⟨rfl, rfl⟩ := Prod.mk.inj hpair
    exact ha'
  refine ⟨hsound rule action, ?_⟩
  intro h
  have hsome : (site.answerIn? order i).isSome = true := by
    unfold Site.answerIn?
    rw [List.findSome?_isSome_iff]
    exact ⟨rule, hall rule, by simp [h]⟩
  obtain ⟨⟨r, a⟩, hfound⟩ := Option.isSome_iff_exists.mp hsome
  have ha := hsound r a hfound
  -- what is found first could be any rule by its place in the order, but no other rule answers
  obtain rfl := Rule.eq_of_fix? h ha
  rw [hfound, Option.some.inj (h.symm.trans ha)]

/-- Any two orders of all the rules find the same answer. -/
theorem Site.answerIn?_eq_of_forall_mem {order order' : List Rule} (hall : ∀ rule, rule ∈ order)
    (hall' : ∀ rule, rule ∈ order') (site : Site) :
    site.answerIn? order = site.answerIn? order' := by
  funext i
  apply Option.ext
  rintro ⟨rule, action⟩
  rw [site.answerIn?_eq_some_iff hall, site.answerIn?_eq_some_iff hall']

/-- **The order of the rules is immaterial.** At most one rule answers on a line of a site, and so a
survey with the rules in any other order enters the same entries into every catalog, in the same
places, and counts the same number. -/
theorem Catalog.surveyIn_eq_survey_of_perm (site : Site) :
    (∀ (i : Nat) (rule other : Rule) (action action' : Action),
      rule.fix? site i = some action → other.fix? site i = some action' → rule = other) ∧
    ∀ (order : List Rule) (c : Catalog), order.Perm Rule.priority →
      c.surveyIn order site = c.survey site := by
  refine ⟨fun i rule other action action' => Rule.eq_of_fix?, ?_⟩
  intro order c hperm
  have hall : ∀ rule, rule ∈ order := fun rule => hperm.mem_iff.mpr rule.mem_priority
  have hentries : site.entriesIn order = site.entriesIn Rule.priority := by
    unfold Site.entriesIn
    rw [Site.answerIn?_eq_of_forall_mem hall Rule.mem_priority]
  calc c.surveyIn order site
      _ = c.surveyIn Rule.priority site := by
        unfold Catalog.surveyIn
        rw [hentries]
      _ = c.survey site := c.surveyIn_priority site

/-- The reversed order on a message with two triggers that begin alike, of which one rule answers on
each of two lines. -/
theorem Catalog.surveyIn_eq_survey_of_reverse :
    ∃ site : Site,
      site.lines = ["This has type: int".toList, " Somewhere wanted: option<int>".toList,
        "Some record fields are undefined: a".toList] ∧
      (∃ action, Rule.optionalWrap.fix? site 1 = some action) ∧
      (∀ other action, other.fix? site 1 = some action → Rule.optionalWrap = other) ∧
      Rule.priority.reverse.Perm Rule.priority ∧
      Catalog.empty.surveyIn Rule.priority.reverse site = Catalog.empty.survey site ∧
      (Catalog.empty.survey site).2 = 2 := by
  let site : Site :=
    .bare ["This has type: int".toList, " Somewhere wanted: option<int>".toList,
        "Some record fields are undefined: a".toList]
      ⟨⟨0, 8⟩, ⟨1, 3⟩⟩
  obtain ⟨hexclusive, hsurvey⟩ := Catalog.surveyIn_eq_survey_of_perm site
  obtain ⟨action, haction⟩ : ∃ action, Rule.optionalWrap.fix? site 1 = some action := ⟨_, rfl⟩
  have hperm : Rule.priority.reverse.Perm Rule.priority := List.reverse_perm _
  refine ⟨site, rfl, ⟨action, haction⟩, ?_, hperm, hsurvey _ Catalog.empty hperm, by decide +kernel⟩
  intro other action' hother
  exact hexclusive 1 Rule.optionalWrap other action action' haction hother

end QuickFix
