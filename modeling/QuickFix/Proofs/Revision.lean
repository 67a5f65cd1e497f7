import QuickFix.Proofs.Document
import QuickFix.Proofs.Position

/-!
# Several edits at once

The edits of an action are all given in positions of the file as it stands, so none of them sees
what another one does. `Document.revised` applies them together: the text between the places is
kept, and edits at one place take effect in the order of the list.

A position that lies in a document cuts its text in two, and a later position cuts it further to the
right (`Document.offset_le_offset`). So two insertions one behind the other leave three stretches of
the text as they are, which is `Document.text_revised_insertions`.
-/

set_option autoImplicit false

namespace QuickFix.Document

open Text (lineFeed units)

/-! ## Positions in a document -/

/-- A position lies in a document: it names one of the lines, and a column up to the line's end. -/
def Holds (doc : Document) (p : Position) : Prop :=
  ∃ line, doc.lines[p.line.toNat]? = some line ∧ p.character.toNat ≤ line.length

instance (doc : Document) (p : Position) : Decidable (doc.Holds p) :=
  match h : doc.lines[p.line.toNat]? with
  | none => .isFalse fun ⟨_, hline, _⟩ => nomatch h.symm.trans hline
  | some line =>
    decidable_of_iff (p.character.toNat ≤ line.length)
      ⟨fun hle => ⟨line, h, hle⟩, fun ⟨_, hline, hle⟩ => Option.some.inj (h.symm.trans hline) ▸ hle⟩

/-- The text before a position. -/
def before (doc : Document) (p : Position) : List UInt16 :=
  doc.text.take (doc.offset p)

/-- The text from a position on. -/
def after (doc : Document) (p : Position) : List UInt16 :=
  doc.text.drop (doc.offset p)

/-- The text from one position to another. -/
def between (doc : Document) (p q : Position) : List UInt16 :=
  (doc.text.take (doc.offset q)).drop (doc.offset p)

variable {doc : Document} {p q : Position}

/-- A step to the left stays in the document. -/
theorem Holds.left (h : doc.Holds p) : doc.Holds p.left := by
  obtain ⟨line, hline, hcolumn⟩ := h
  refine ⟨line, ?_, ?_⟩
  · rw [Position.left_line]
    exact hline
  · rw [Position.toNat_left_character]
    omega

/-- The offset of a position in the document does not go beyond the text. -/
theorem Holds.offset_le_length (h : doc.Holds p) : doc.offset p ≤ doc.text.length := by
  obtain ⟨line, hline, hcolumn⟩ := h
  obtain ⟨hlt, hget⟩ := List.getElem?_eq_some_iff.mp hline
  have hlines : doc.lines = doc.lines.take p.line.toNat ++
      (line.take p.character.toNat ++ line.drop p.character.toNat) ::
        doc.lines.drop (p.line.toNat + 1) := by
    rw [List.take_append_drop, ← hget, List.getElem_cons_drop, List.take_append_drop]
  have hoffset := doc.offset_eq_length hlines p (List.length_take_of_le (Nat.le_of_lt hlt))
    (List.length_take_of_le hcolumn)
  rw [hoffset, doc.text_eq_append hlines]
  exact (List.prefix_append _ _).length_le

/-- The lines above a later line hold all that stands above an earlier one, and that line. -/
theorem length_above_lt (hline : doc.Holds p) (hlt : p.line.toNat < q.line.toNat) :
    doc.offset p < ((doc.lines.take q.line.toNat).flatMap (· ++ [lineFeed])).length := by
  obtain ⟨line, hline, hcolumn⟩ := hline
  have hnext : doc.lines.take (p.line.toNat + 1) = doc.lines.take p.line.toNat ++ [line] := by
    rw [List.take_add_one, hline, Option.toList_some]
  obtain ⟨more, hmore⟩ : doc.lines.take (p.line.toNat + 1) <+: doc.lines.take q.line.toNat :=
    List.take_prefix_take_left hlt
  rw [← hmore, hnext]
  simp only [offset, List.flatMap_append, List.flatMap_cons, List.flatMap_nil, List.length_append,
    List.length_cons, List.length_nil]
  omega

/-- Of two positions in a document the later one has the greater offset. -/
theorem offset_le_offset (hp : doc.Holds p) (hle : p ≤ q) : doc.offset p ≤ doc.offset q := by
  rcases Position.le_iff.mp hle with hlt | ⟨hline, hcolumn⟩
  · have habove := length_above_lt hp hlt
    unfold offset at habove ⊢
    omega
  · unfold offset
    rw [hline]
    omega

/-- Two positions cut a text in three. -/
theorem text_eq_before_between_after (hp : doc.Holds p) (hle : p ≤ q) :
    doc.text = doc.before p ++ doc.between p q ++ doc.after q := by
  have hfront : doc.before p = (doc.text.take (doc.offset q)).take (doc.offset p) := by
    rw [List.take_take, Nat.min_eq_left (offset_le_offset hp hle)]
    rfl
  rw [hfront, between, List.take_append_drop, after, List.take_append_drop]

/-- A position that is not at the start of its line has one unit between it and the position to its
left, the last one before it. -/
theorem exists_unit_before (hp : doc.Holds p) (hcolumn : 1 ≤ p.character.toNat) :
    ∃ unit, doc.between p.left p = [unit] ∧ doc.before p = doc.before p.left ++ [unit] := by
  have hoffset : doc.offset p = doc.offset p.left + 1 := by
    unfold offset
    rw [Position.left_line, Position.toNat_left_character]
    omega
  have hlength := hp.offset_le_length
  have hnext : doc.before p = doc.before p.left ++ [doc.text[doc.offset p.left]] := by
    unfold before
    rw [hoffset, List.take_succ_eq_append_getElem]
  refine ⟨_, ?_, hnext⟩
  have hbetween : doc.between p.left p = (doc.before p).drop (doc.before p.left).length := by
    unfold between before
    rw [List.length_take_of_le (by omega)]
  rw [hbetween, hnext, List.drop_left]

/-- Nothing stands between a position and itself. -/
theorem between_self (doc : Document) (p : Position) : doc.between p p = [] := by
  unfold between
  exact List.drop_eq_nil_of_le (List.length_take_le _ _)

/-! ## Edits in the order of their places -/

/-- What edits in the order of their places make of the text from an offset on: what lies before the
first of them is kept, its own text follows, and the others go on behind what it replaces. -/
def revisedFrom (doc : Document) : Nat → List Edit → List UInt16
  | n, [] => doc.text.drop n
  | n, e :: es =>
    (doc.text.take (doc.offset e.range.start)).drop n ++ units e.newText.toList ++
      doc.revisedFrom (doc.offset e.range.stop) es

/-- The document after edits that are all given in its own positions. The sorting is stable: edits
at one place stay in the order of the list. -/
def revised (doc : Document) (edits : List Edit) : Document :=
  ofText (doc.revisedFrom 0 (edits.mergeSort fun e f => e.range.start ≤ f.range.start))

/-- One edit is applied as on its own. -/
theorem revised_singleton (doc : Document) (e : Edit) : doc.revised [e] = doc.edited e := by
  unfold revised edited
  rw [List.mergeSort_singleton, revisedFrom, revisedFrom, List.drop_zero]

/-- A text read as a document has that text. -/
theorem text_ofText (t : List UInt16) : (ofText t).text = t :=
  List.intercalate_splitOn lineFeed

/-- **Two insertions.** The text before the first place, between the places and behind the second
one is kept, and the inserted texts stand where it was cut. -/
theorem text_revised_insertions (hle : p ≤ q) (first second : String) :
    (doc.revised [.insertion p first, .insertion q second]).text =
      doc.before p ++ units first.toList ++ doc.between p q ++ units second.toList ++
        doc.after q := by
  have hsorted : [Edit.insertion p first, .insertion q second].Pairwise
      fun e f => decide (e.range.start ≤ f.range.start) = true :=
    List.pairwise_pair.mpr (decide_eq_true hle)
  unfold revised
  rw [List.mergeSort_of_pairwise hsorted, text_ofText]
  simp only [revisedFrom, List.drop_zero, List.append_assoc]
  rfl

end QuickFix.Document
