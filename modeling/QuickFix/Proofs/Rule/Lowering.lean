import Mathlib.Data.List.Forall2
import QuickFix.Proofs.Position
import QuickFix.Proofs.Rule.Basic

/-!
# Ranges further down

When lines are put before some code, its range moves down and its diagnostics stay the same. This
file says that the answers of the rules move with the range. `Lowered k` relates what is at one
place to what is `k` lines further down and otherwise the same: positions, ranges, edits, proposals
and actions. It is about numbers of lines, not about words, so a position has nothing `k` lines
below it if its line and `k` make more than the greatest word.

The rules build positions in two ways, by a column to the left or right and by the ends of the
range, and both keep `Lowered`. They ask two things about positions, if the ends of the range are
the same and if they are on one line, and the answers are the same further down. Texts depend on
columns only. From this follows the one statement about all rules, `onLine?_lowered`.
-/

set_option autoImplicit false

namespace QuickFix

/-! ## Positions and ranges -/

/-- The position so many lines further down. -/
def Position.down (p : Position) (k : Nat) : Position :=
  { p with line := UInt32.ofNat (p.line.toNat + k) }

/-- The range so many lines further down. -/
def Range.down (r : Range) (k : Nat) : Range :=
  ⟨r.start.down k, r.stop.down k⟩

/-- The second position is `k` lines below the first, in the same column. -/
structure Position.Lowered (k : Nat) (p q : Position) : Prop where
  line : q.line.toNat = p.line.toNat + k
  character : q.character = p.character

/-- Both ends of the second range are `k` lines below those of the first. -/
structure Range.Lowered (k : Nat) (r s : Range) : Prop where
  start : r.start.Lowered k s.start
  stop : r.stop.Lowered k s.stop

namespace Position

variable {k : Nat} {p p' q q' : Position}

/-- As long as its line is a word, the position further down is where it should be. -/
theorem lowered_down (h : p.line.toNat + k ≤ 4294967295) : p.Lowered k (p.down k) where
  line := UInt32.toNat_ofNat_of_lt' (show p.line.toNat + k < 4294967296 by omega)
  character := rfl

/-- Positions one to the left keep their distance in lines. -/
theorem Lowered.left (h : p.Lowered k q) : p.left.Lowered k q.left where
  line := by rw [left_line, left_line, h.line]
  character := by rw [Position.left, Position.left, h.character]

/-- Positions one to the right keep their distance in lines. -/
theorem Lowered.right (h : p.Lowered k q) : p.right.Lowered k q.right where
  line := by rw [right_line, right_line, h.line]
  character := by rw [Position.right, Position.right, h.character]

/-- Positions that are lowered alike are on one line exactly when they were. -/
theorem Lowered.line_eq_iff (hp : p.Lowered k p') (hq : q.Lowered k q') :
    p'.line = q'.line ↔ p.line = q.line := by
  have hline := hp.line
  have hline' := hq.line
  rw [← UInt32.toNat_inj, ← UInt32.toNat_inj]
  omega

/-- Positions that are lowered alike are equal exactly when they were. -/
theorem Lowered.eq_iff (hp : p.Lowered k p') (hq : q.Lowered k q') : p' = q' ↔ p = q := by
  rw [Position.mk.injEq, Position.mk.injEq, hp.line_eq_iff hq, hp.character, hq.character]

/-- Positions that are lowered alike keep their order. -/
theorem Lowered.le_iff (hp : p.Lowered k p') (hq : q.Lowered k q') : p' ≤ q' ↔ p ≤ q := by
  rw [Position.le_iff, Position.le_iff, hp.line, hq.line, hp.character, hq.character]
  omega

end Position

namespace Range

variable {k : Nat} {r s : Range}

/-- A range moves down as long as its lines can be numbered. -/
theorem lowered_down (hstart : r.start.line.toNat + k ≤ 4294967295)
    (hstop : r.stop.line.toNat + k ≤ 4294967295) : r.Lowered k (r.down k) where
  start := Position.lowered_down hstart
  stop := Position.lowered_down hstop

/-- The place of the closing delimiter moves down with its range. -/
theorem Lowered.closing (h : r.Lowered k s) : r.closing.Lowered k s.closing :=
  h.stop.left

/-- A position further down lies in the range further down exactly if the position lies in the
range. -/
theorem Lowered.contains_eq (h : r.Lowered k s) {p q : Position} (hp : p.Lowered k q) :
    s.contains q = r.contains p := by
  unfold Range.contains
  rw [decide_eq_decide.mpr (h.start.le_iff hp), decide_eq_decide.mpr (hp.le_iff h.stop)]

end Range

/-! ## Edits -/

/-- The same text is put `k` lines further down. -/
structure Edit.Lowered (k : Nat) (e f : Edit) : Prop where
  range : e.range.Lowered k f.range
  newText : f.newText = e.newText

/-- The same title, and edits `k` lines further down. -/
structure Proposal.Lowered (k : Nat) (p q : Proposal) : Prop where
  title : q.title = p.title
  edits : List.Forall₂ (Edit.Lowered k) p.edits q.edits

/-- The same action with all edits `k` lines further down. The diagnostics need not be the same. -/
structure Action.Lowered (k : Nat) (a b : Action) : Prop where
  title : b.title = a.title
  kind : b.kind = a.kind
  isPreferred : b.isPreferred = a.isPreferred
  changes : List.Forall₂
    (fun x y => y.1 = x.1 ∧ List.Forall₂ (Edit.Lowered k) x.2 y.2) a.changes b.changes

variable {k : Nat}

/-- An insertion moves down with its place. -/
theorem Edit.lowered_insertion {p q : Position} (h : p.Lowered k q) (text : String) :
    (Edit.insertion p text).Lowered k (.insertion q text) where
  range := ⟨h, h⟩
  newText := rfl

/-- An insertion before the last character of a range moves down with the range. -/
theorem Range.Lowered.insertBeforeLast {r s : Range} (h : r.Lowered k s) (text : String) :
    List.Forall₂ (Edit.Lowered k) [r.insertBeforeLast text] [s.insertBeforeLast text] :=
  .cons (Edit.lowered_insertion h.closing text) .nil

/-- A range without extent has none further down, so the same of the two places is wrapped. -/
theorem Range.Lowered.wrap {r s : Range} (h : r.Lowered k s) (opening closing : String) :
    List.Forall₂ (Edit.Lowered k) (r.wrap opening closing) (s.wrap opening closing) := by
  have hstart : (if r.start = r.stop then r.start.left else r.start).Lowered k
      (if s.start = s.stop then s.start.left else s.start) := by
    by_cases hempty : r.start = r.stop
    · rw [if_pos hempty, if_pos ((h.start.eq_iff h.stop).mpr hempty)]
      exact h.start.left
    · rw [if_neg hempty, if_neg fun heq => hempty ((h.start.eq_iff h.stop).mp heq)]
      exact h.start
  exact .cons (Edit.lowered_insertion hstart opening)
    (.cons (Edit.lowered_insertion h.stop closing) .nil)

/-- An action moves down with its proposal, whatever diagnostics it is for. -/
theorem Proposal.Lowered.toAction {p q : Proposal} (h : p.Lowered k q) (uri : Uri)
    (d d' : Diagnostic) : (p.toAction uri d).Lowered k (q.toAction uri d') where
  title := h.title
  kind := rfl
  isPreferred := rfl
  changes := .cons ⟨rfl, h.edits⟩ .nil

/-! ## Answers in step -/

section Answers

variable {α β γ : Type} {R : β → γ → Prop}

/-- Two computations that start with the same step are in step if they go on so. -/
theorem rel_bind (x : Option α) {f : α → Option β} {g : α → Option γ}
    (h : ∀ a, Option.Rel R (f a) (g a)) : Option.Rel R (x.bind f) (x.bind g) := by
  cases x with
  | none => exact .none
  | some a => exact h a

/-- Optional results that are related stay so when both are given up on one condition. -/
theorem rel_ite_none {c : Prop} [Decidable c] {x : Option β} {y : Option γ}
    (h : Option.Rel R x y) :
    Option.Rel R (if c then none else x) (if c then none else y) := by
  by_cases hc : c
  · rw [if_pos hc, if_pos hc]
    exact .none
  · rw [if_neg hc, if_neg hc]
    exact h

/-- Optional results that are related stay so when both are mapped alike. -/
theorem rel_map {δ ε : Type} {S : δ → ε → Prop} {x : Option β} {y : Option γ} {f : β → δ}
    {g : γ → ε} (h : Option.Rel R x y) (hfg : ∀ b c, R b c → S (f b) (g c)) :
    Option.Rel S (x.map f) (y.map g) := by
  cases h with
  | none => exact .none
  | some hr => exact .some (hfg _ _ hr)

/-- Two searches in one list that are in step at every member find their answers at the same one. -/
theorem rel_findSome? (l : List α) {f : α → Option β} {g : α → Option γ}
    (h : ∀ a, Option.Rel R (f a) (g a)) :
    Option.Rel R (l.findSome? f) (l.findSome? g) := by
  induction l with
  | nil => exact .none
  | cons a l ih =>
      have ha := h a
      rw [List.findSome?_cons, List.findSome?_cons]
      generalize f a = x at ha ⊢
      generalize g a = y at ha ⊢
      cases ha with
      | none => exact ih
      | some hr => exact .some hr

end Answers

namespace Rule

/-- The layout of placeholders depends on columns, and on the lines only by whether there is one or
more of them. -/
theorem fieldsText_of_lowered {r s : Range} (h : r.Lowered k s) (fields : List (List Char)) :
    fieldsText s fields = fieldsText r fields := by
  unfold fieldsText
  rw [h.closing.character]
  simp only [h.start.line_eq_iff h.stop]

/-- The text of the arms depends on columns only. -/
theorem armsText_of_lowered {r s : Range} (h : r.Lowered k s) (patterns : List (List Char)) :
    armsText s patterns = armsText r patterns := by
  unfold armsText
  rw [h.closing.character]

/-- **The answers of a rule move with the range.** On the same lines a rule proposes something for
both ranges or for none, and what it proposes for the lower one is the same, further down. -/
theorem onLine?_lowered {r s : Range} (h : r.Lowered k s) (rule : Rule) (line : List Char)
    (above : Option (List Char)) (below : List (List Char)) :
    Option.Rel (Proposal.Lowered k) (rule.onLine? r line above below)
      (rule.onLine? s line above below) := by
  cases rule with
  | identifierSuggestion =>
      refine rel_bind _ fun _ => rel_bind _ fun name => rel_ite_none (.some ⟨rfl, ?_⟩)
      exact .cons ⟨h, rfl⟩ .nil
  | missingRecordFields =>
      refine rel_bind _ fun rest => rel_ite_none (.some ⟨rfl, ?_⟩)
      rw [fieldsText_of_lowered h]
      exact h.insertBeforeLast _
  | typeConversion =>
      refine rel_bind _ fun _ => rel_bind _ fun found => rel_ite_none (.some ⟨rfl, ?_⟩)
      exact h.wrap _ _
  | topLevelUnitWrap => exact rel_bind _ fun _ => .some ⟨rfl, h.wrap _ _⟩
  | uncurriedDotInsert =>
      refine rel_bind _ fun _ => .some ⟨rfl, ?_⟩
      exact .cons (Edit.lowered_insertion h.stop.right _) .nil
  | missingMatchCases =>
      refine rel_bind _ fun _ => rel_ite_none (.some ⟨rfl, ?_⟩)
      rw [armsText_of_lowered h]
      exact h.insertBeforeLast _
  | optionalWrap =>
      refine rel_bind _ fun wanted => rel_bind _ fun actual => rel_ite_none (.some ⟨rfl, ?_⟩)
      exact h.wrap _ _

end Rule

end QuickFix
