import QuickFix.Proofs.Revision
import QuickFix.Proofs.Rule.Conversion
import QuickFix.Proofs.Rule.Optional

/-!
# Wrapping a stretch of a file

The two insertions that wrap a range put their texts around what the range covers. A range without
extent stands for the unit before it, and at the start of a line there is no such unit, so that both
texts go to the same place. `Document.Wrapped` says what the file looks like in each of these cases,
and `Document.exists_wrapped` that it does for every range of every file.

Three rules wrap: each writes a call of something on the range (`exists_call_of_propose?`).
-/

set_option autoImplicit false

namespace QuickFix

open Text (lineFeed units)

/-- The document `doc'` is `doc` with two texts around a stretch of it: `front` stands before the
stretch and `inner` is the stretch itself. All of the text of `doc` is there, in its order. -/
structure Document.Wrapped (doc doc' : Document) (r : Range) (opening closing : List UInt16)
    (front inner : List UInt16) : Prop where
  original : doc.text = front ++ inner ++ doc.after r.stop
  result : doc'.text = front ++ opening ++ inner ++ closing ++ doc.after r.stop
  /-- A range with some extent is what is wrapped. -/
  extent : r.start < r.stop → front = doc.before r.start ∧ inner = doc.between r.start r.stop
  /-- A range without extent has the unit before it wrapped. -/
  token : r.start = r.stop → 1 ≤ r.start.character.toNat →
    ∃ unit, inner = [unit] ∧ front ++ [unit] = doc.before r.start
  /-- At the start of a line nothing is between the two texts. -/
  lineStart : r.start = r.stop → r.start.character.toNat = 0 →
    inner = [] ∧ front = doc.before r.start

/-- **Wrapping.** The two insertions for a range of a document put their texts around the stretch
that the range stands for. -/
theorem Document.exists_wrapped {doc : Document} {r : Range} (hstart : doc.Holds r.start)
    (hle : r.start ≤ r.stop) (opening closing : String) :
    ∃ front inner, doc.Wrapped (doc.revised (r.wrap opening closing)) r (units opening.toList)
      (units closing.toList) front inner := by
  -- an empty range stands for the character before it
  by_cases hempty : r.start = r.stop
  · have hwrap : r.wrap opening closing =
        [.insertion r.start.left opening, .insertion r.stop closing] := by
      unfold Range.wrap
      rw [if_pos hempty]
    have hleft : r.start.left ≤ r.stop := Position.le_trans (Position.left_le _) hle
    refine ⟨doc.before r.start.left, doc.between r.start.left r.stop, ?_, ?_, ?_, ?_, ?_⟩
    · exact text_eq_before_between_after hstart.left hleft
    · rw [hwrap, text_revised_insertions hleft]
    · intro hlt
      exact absurd hempty (Position.ne_of_lt hlt)
    · intro _ hcolumn
      obtain ⟨unit, hunit, hbefore⟩ := exists_unit_before hstart hcolumn
      exact ⟨unit, by rw [← hempty, hunit], hbefore.symm⟩
    · intro _ hcolumn
      rw [Position.left_eq_self hcolumn, ← hempty, between_self]
      exact ⟨rfl, rfl⟩
  · have hwrap : r.wrap opening closing =
        [.insertion r.start opening, .insertion r.stop closing] := by
      unfold Range.wrap
      rw [if_neg hempty]
    refine ⟨doc.before r.start, doc.between r.start r.stop, ?_, ?_, ?_, ?_, ?_⟩
    · exact text_eq_before_between_after hstart hle
    · rw [hwrap, text_revised_insertions hle]
    · exact fun _ => ⟨rfl, rfl⟩
    · exact fun h => absurd h hempty
    · exact fun h => absurd h hempty

namespace Rule

/-! ## The rules that wrap -/

/-- A conversion calls a function whose name has characters of a name only. -/
theorem exists_call_of_conversion {range : Range} {line : List Char} {p : Proposal}
    (h : conversion range line = some p) :
    ∃ name : String, name.toList.all isPathChar = true ∧
      p.edits = range.wrap (name ++ "(") ")" := by
  obtain ⟨found, before, after, name, -, ⟨t, -, hspelled⟩, ⟨⟨n, hfunction⟩, -⟩, -, rfl⟩ :=
    (conversion_eq_some_iff range line p).mp h
  refine ⟨String.ofList name, ?_, rfl⟩
  rw [String.toList_ofList, List.all_eq_true]
  intro c hc
  exact hspelled.function_path c (by simp [hfunction, hc])

/-- Each of the three rules that wrap proposes to call something on the range. -/
theorem exists_call_of_propose? {rule : Rule} {range : Range} {lines : List (List Char)} {i : Nat}
    {p : Proposal} (hrule : rule = typeConversion ∨ rule = topLevelUnitWrap ∨ rule = optionalWrap)
    (h : rule.propose? range lines i = some p) :
    ∃ name : String, name.toList.all isPathChar = true ∧
      p.edits = range.wrap (name ++ "(") ")" := by
  obtain ⟨line, -, hline⟩ := (propose?_eq_some_iff rule range lines i p).mp h
  rcases hrule with rfl | rfl | rfl
  · exact exists_call_of_conversion hline
  · obtain ⟨-, -, hproposal⟩ := Option.bind_eq_some_iff.mp hline
    obtain rfl := Option.some.inj hproposal
    exact ⟨"ignore", by decide, rfl⟩
  · obtain ⟨upper, type, -, -, -, -, hproposal⟩ := (someWrap_eq_some_iff _ _ _ _).mp hline
    rw [hproposal]
    exact ⟨"Some", by decide, rfl⟩

/-- **Wrapping is faithful.** For every range of every document, applying the insertions that wrap
the range puts the two texts around it and keeps all of the document's text. The actions of the
three rules that wrap consist of such insertions, whose texts hold no line feed. -/
theorem wrapping_faithful :
    (∀ (doc : Document) (r : Range) (opening closing : String),
      doc.Holds r.start → doc.Holds r.stop → r.start ≤ r.stop →
        ∃ front inner, doc.Wrapped (doc.revised (r.wrap opening closing)) r (units opening.toList)
          (units closing.toList) front inner) ∧
    ∀ (site : Site) (rule : Rule) (i : Nat) (action : Action),
      rule = typeConversion ∨ rule = topLevelUnitWrap ∨ rule = optionalWrap →
      rule.fix? site i = some action →
        ∃ opening closing : String,
          action.changes = [(site.uri, site.range.wrap opening closing)] ∧
          '\n' ∉ opening.toList ∧ '\n' ∉ closing.toList ∧
          ∀ doc : Document,
            doc.Holds site.range.start → doc.Holds site.range.stop →
            site.range.start ≤ site.range.stop →
              ∃ front inner, doc.Wrapped (doc.revised (site.range.wrap opening closing)) site.range
                (units opening.toList) (units closing.toList) front inner := by
  constructor
  · intro doc r opening closing hstart _ hle
    exact Document.exists_wrapped hstart hle opening closing
  · intro site rule i action hrule hanswer
    obtain ⟨p, hp, rfl⟩ := (fix?_eq_some_iff rule site i action).mp hanswer
    obtain ⟨name, hname, hedits⟩ := exists_call_of_propose? hrule hp
    refine ⟨name ++ "(", ")", ?_, ?_, by decide, ?_⟩
    · rw [← hedits]
      rfl
    · intro hfeed
      rcases List.mem_append.mp (String.toList_append ▸ hfeed) with hfeed | hfeed
      · exact absurd (List.all_eq_true.mp hname _ hfeed) (by decide)
      · exact absurd hfeed (by decide)
    · intro doc hstart _ hle
      exact Document.exists_wrapped hstart hle _ _

/-- A call that ends where its range is, which has no extent, and a range over two lines. -/
theorem wrapping_faithful_token :
    ∃ (site : Site) (action : Action) (opening closing : String) (doc : Document),
      site.range = ⟨⟨1, 3⟩, ⟨1, 3⟩⟩ ∧ doc.text = units "let x =\nf()".toList ∧
      doc.Holds site.range.start ∧ site.range.start ≤ site.range.stop ∧
      topLevelUnitWrap.fix? site 0 = some action ∧
      action.changes = [(site.uri, site.range.wrap opening closing)] ∧
      (doc.revised (site.range.wrap opening closing)).text =
        units "let x =\nf(ignore())".toList ∧
      (doc.revised (Range.wrap ⟨⟨0, 4⟩, ⟨1, 1⟩⟩ "Some(" ")")).text =
        units "let Some(x =\nf)()".toList := by
  let site : Site :=
    .bare ["Toplevel expression is expected to have unit type.".toList] ⟨⟨1, 3⟩, ⟨1, 3⟩⟩
  let doc : Document := ⟨[units "let x =".toList, units "f()".toList], by decide⟩
  obtain ⟨action, hanswer, hchanges⟩ : ∃ action, topLevelUnitWrap.fix? site 0 = some action ∧
      action.changes = [(site.uri, site.range.wrap "ignore(" ")")] := ⟨_, rfl, rfl⟩
  have hstart : doc.Holds site.range.start := by decide
  have hle : site.range.start ≤ site.range.stop := by decide
  obtain ⟨opening, closing, hchanges', -, -, hwrapped⟩ :=
    wrapping_faithful.2 site topLevelUnitWrap 0 action (.inr (.inl rfl)) hanswer
  obtain ⟨rfl, rfl⟩ : "ignore(" = opening ∧ ")" = closing := by
    have hsame := hchanges.symm.trans hchanges'
    simp only [List.cons.injEq, Prod.mk.injEq, Range.wrap, Edit.insertion, Edit.mk.injEq] at hsame
    exact ⟨hsame.1.2.1.2, hsame.1.2.2.1.2⟩
  obtain ⟨front, inner, htoken⟩ := hwrapped doc hstart hstart hle
  obtain ⟨unit, rfl, hfront⟩ := htoken.token rfl (by decide)
  obtain ⟨front', inner', hextent⟩ := wrapping_faithful.1 doc ⟨⟨0, 4⟩, ⟨1, 1⟩⟩ "Some(" ")"
    (by decide) (by decide) (by decide)
  obtain ⟨rfl, rfl⟩ := hextent.extent (by decide)
  have hbefore : doc.before site.range.start = units "let x =\nf(".toList ++ units ")".toList := by
    decide
  obtain ⟨rfl, hunit⟩ := List.append_inj' (hfront.trans hbefore) rfl
  refine ⟨site, action, _, _, doc, rfl, by decide, hstart, hle, hanswer, hchanges, ?_, ?_⟩
  · rw [htoken.result, hunit]
    decide
  · rw [hextent.result]
    decide

end Rule

end QuickFix
