import QuickFix.Position

/-!
# Columns as natural numbers, and the order of positions

Columns are words that stop at the two ends of their range. The first lemmas say what moving a
column does to the number it stands for, so that later arguments about columns are about natural
numbers. From them follows how positions that are moved by a column lie to each other: a move to the
left or to the right keeps the order, and only a position that has another one before it on its line
can be moved without passing it (`Position.le_left_of_lt`).
-/

set_option autoImplicit false

namespace QuickFix

/-- The number before a word is one less, and zero before zero. -/
theorem toNat_wordBefore (n : UInt32) : (wordBefore n).toNat = n.toNat - 1 := by
  unfold wordBefore
  split
  · rename_i h
    simp [h]
  · rename_i h
    have hne : n.toNat ≠ 0 := fun hzero => h (UInt32.toNat_inj.mp hzero)
    have hpos : 1 ≤ n := UInt32.le_iff_toNat_le.mpr (show 1 ≤ n.toNat by omega)
    rw [UInt32.toNat_sub_of_le _ _ hpos]
    rfl

/-- So many more, as long as the sum is a word. -/
theorem toNat_wordAfter (n k : UInt32) :
    (wordAfter n k).toNat = min (n.toNat + k.toNat) 4294967295 := by
  have hn : n.toNat < 4294967296 := n.toNat_lt
  have hk : k.toNat < 4294967296 := k.toNat_lt
  have hroom : (greatestWord - n).toNat = 4294967295 - n.toNat := by
    have hle : n ≤ greatestWord := UInt32.le_iff_toNat_le.mpr (show n.toNat ≤ 4294967295 by omega)
    rw [UInt32.toNat_sub_of_le _ _ hle]
    rfl
  unfold wordAfter
  split
  · rename_i h
    rw [UInt32.lt_iff_toNat_lt, hroom] at h
    show 4294967295 = _
    omega
  · rename_i h
    rw [UInt32.lt_iff_toNat_lt, hroom] at h
    rw [UInt32.toNat_add, Nat.mod_eq_of_lt (by omega)]
    omega

/-- The closing position of a range that ends behind a column is in that column. -/
theorem Range.toNat_closing_character {r : Range} {c : Nat}
    (h : r.stop.character.toNat = c + 1) : r.closing.character.toNat = c := by
  have hbefore : r.closing.character.toNat = r.stop.character.toNat - 1 := toNat_wordBefore _
  omega

namespace Position

variable {p q r : Position}

/-- Positions are ordered by their lines, and on one line by their characters. -/
theorem le_iff :
    p ≤ q ↔ p.line.toNat < q.line.toNat ∨
      p.line.toNat = q.line.toNat ∧ p.character.toNat ≤ q.character.toNat := by
  show p.line < q.line ∨ p.line = q.line ∧ p.character ≤ q.character ↔ _
  rw [UInt32.lt_iff_toNat_lt, UInt32.le_iff_toNat_le, UInt32.toNat_inj]

/-- A position is below another on an earlier line, or on the same line further left. -/
theorem lt_iff :
    p < q ↔ p.line.toNat < q.line.toNat ∨
      p.line.toNat = q.line.toNat ∧ p.character.toNat < q.character.toNat := by
  show p.line < q.line ∨ p.line = q.line ∧ p.character < q.character ↔ _
  rw [UInt32.lt_iff_toNat_lt, UInt32.lt_iff_toNat_lt, UInt32.toNat_inj]

/-- A step to the left stays on its line. -/
theorem left_line (p : Position) : p.left.line = p.line := by
  rw [left]

/-- A step to the right stays on its line. -/
theorem right_line (p : Position) : p.right.line = p.line := by
  rw [right]

/-- A step to the left goes one character back, and nowhere from the start of a line. -/
theorem toNat_left_character (p : Position) : p.left.character.toNat = p.character.toNat - 1 :=
  toNat_wordBefore _

/-- A step to the right goes one character on, up to the greatest number there is. -/
theorem toNat_right_character (p : Position) :
    p.right.character.toNat = min (p.character.toNat + 1) 4294967295 := by
  unfold right
  rw [toNat_wordAfter, UInt32.toNat_one]

/-- The order of positions is reflexive. -/
theorem le_refl (p : Position) : p ≤ p :=
  .inr ⟨rfl, UInt32.le_refl _⟩

/-- The order of positions is transitive. -/
theorem le_trans (hpq : p ≤ q) (hqr : q ≤ r) : p ≤ r := by
  rw [le_iff] at *
  omega

/-- A position below another is at most the other. -/
theorem le_of_lt (h : p < q) : p ≤ q := by
  rw [lt_iff] at h
  rw [le_iff]
  omega

/-- A position is never below itself. -/
theorem ne_of_lt (h : p < q) : p ≠ q := by
  rintro rfl
  rw [lt_iff] at h
  omega

/-- At the start of a line there is no column to the left. -/
theorem left_eq_self (h : p.character.toNat = 0) : p.left = p := by
  have hzero : p.character = 0 := UInt32.toNat_inj.mp h
  unfold left wordBefore
  rw [if_pos hzero, ← hzero]

/-- A step to the left goes to no later position. -/
theorem left_le (p : Position) : p.left ≤ p := by
  rw [le_iff, left_line, toNat_left_character]
  omega

/-- A step to the right goes to no earlier position. -/
theorem le_right (p : Position) : p ≤ p.right := by
  have hbound := p.character.toNat_lt
  rw [le_iff, right_line, toNat_right_character]
  omega

/-- Steps to the left keep the order of positions. -/
theorem left_le_left (h : p ≤ q) : p.left ≤ q.left := by
  rw [le_iff] at *
  rw [left_line, left_line, toNat_left_character, toNat_left_character]
  omega

/-- A column to the left of a later position is not before the earlier one. -/
theorem le_left_of_lt (h : p < q) : p ≤ q.left := by
  rw [lt_iff] at h
  rw [le_iff, left_line, toNat_left_character]
  omega

end Position

end QuickFix
