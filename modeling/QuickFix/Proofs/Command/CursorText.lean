import Mathlib.Data.List.Basic
import QuickFix.Command.Options
import QuickFix.Proofs.Numeral
import QuickFix.Proofs.Trimming

/-!
# The texts of a cursor

A cursor is written as two numerals with a colon between and white space around each of them.
`SpellsCursor` is that grammar, both numbers within a 32-bit word, and `cursor?_iff_spellsCursor`
says that a position is read from exactly these texts and that it is the one they spell.

Trimming finds the numeral of a padded text (`padded_iff`). A text of the grammar has one colon, so
every way to take it apart at a colon is the one the reader takes (`SpellsCursor.sides`), and what
is wrong with one side of a text is wrong with the text.
-/

set_option autoImplicit false

namespace QuickFix.Command

/-! ## Padded numerals -/

/-- White space, as its code points. -/
def AllBlank (s : List Char) : Prop :=
  ∀ c ∈ s, c.toNat ∈ Text.blankCodes

/-- A text is all blank exactly when each of its characters is. -/
theorem allBlank_iff {s : List Char} : AllBlank s ↔ ∀ c ∈ s, Text.isBlank c = true := by
  simp only [AllBlank, Text.isBlank_iff]

/-- A numeral for `n` with white space around it. -/
inductive Padded : List Char → Nat → Prop
  | mk {left core right : List Char} {n : Nat} :
      AllBlank left → Numeral.Spells core n → AllBlank right → Padded (left ++ core ++ right) n

/-- No character of a spelled number is blank. -/
theorem not_isBlank_of_spells {s : List Char} {n : Nat} (h : Numeral.Spells s n) {c : Char}
    (hc : c ∈ s) : Text.isBlank c = false := by
  rcases h.of_mem hc with rfl | hdigit
  · decide
  · exact Numeral.isBlank_of_isDigit hdigit

/-- A padded numeral is a text that is a numeral once it is trimmed. -/
theorem padded_iff {s : List Char} {n : Nat} : Padded s n ↔ Numeral.Spells (Text.trim s) n := by
  constructor
  · rintro ⟨hleft, hcore, hright⟩
    rw [Text.trim_append_blanks (allBlank_iff.mp hright),
      Text.trim_blanks_append (allBlank_iff.mp hleft),
      Text.trim_eq_self fun c => not_isBlank_of_spells hcore]
    exact hcore
  · intro h
    obtain ⟨left, right, hleft, hright, hs⟩ := Text.exists_blanks_trim s
    rw [hs]
    exact .mk (allBlank_iff.mpr hleft) h (allBlank_iff.mpr hright)

/-- A padded text spells at most one number. -/
theorem Padded.unique {s : List Char} {m n : Nat} (hm : Padded s m) (hn : Padded s n) : m = n :=
  (padded_iff.mp hm).unique (padded_iff.mp hn)

/-- A text that spells a number, padded or not, is not all blank. -/
theorem Padded.not_allBlank {s : List Char} {n : Nat} (h : Padded s n) : ¬AllBlank s := by
  intro hblank
  have htrim : Text.trim s = [] := Text.trim_append_blanks (allBlank_iff.mp hblank) []
  exact (padded_iff.mp h).ne_nil htrim

/-- Padded numerals have no other characters, so neither a colon nor a minus sign. -/
theorem Padded.of_mem {s : List Char} {n : Nat} (h : Padded s n) {c : Char} (hc : c ∈ s) :
    c = '+' ∨ Numeral.isDigit c = true ∨ Text.isBlank c = true := by
  obtain ⟨hleft, hcore, hright⟩ := h
  rw [List.mem_append, List.mem_append] at hc
  rcases hc with (hc | hc) | hc
  · exact .inr (.inr (allBlank_iff.mp hleft c hc))
  · exact (hcore.of_mem hc).imp_right .inl
  · exact .inr (.inr (allBlank_iff.mp hright c hc))

/-- The digits of a number spell it without padding. -/
theorem padded_digits (n : Nat) : Padded (Numeral.digits n) n := by
  have h : Padded ([] ++ Numeral.digits n ++ []) n := .mk nofun (Numeral.spells_digits n) nofun
  rwa [List.nil_append, List.append_nil] at h

/-! ## The grammar of cursors -/

/-- The text of a cursor at the line `l` and the column `c`: a padded numeral for each, with a colon
between, and neither too great for a 32-bit word. -/
structure SpellsCursor (s : List Char) (l c : Nat) : Prop where
  parts : ∃ a b, s = a ++ ':' :: b ∧ ':' ∉ a ∧ Padded a l ∧ Padded b c
  line_le : l ≤ 4294967295
  character_le : c ≤ 4294967295

/-- Faults by which a text is seen to be no cursor. -/
inductive Malformed (s : List Char) : Prop
  | noColon : ':' ∉ s → Malformed s
  | moreColons : 1 < s.count ':' → Malformed s
  | minus : '-' ∈ s → Malformed s
  | emptySide {a b : List Char} : s = a ++ ':' :: b → AllBlank a ∨ AllBlank b → Malformed s
  | overflow {a b : List Char} {n : Nat} :
      s = a ++ ':' :: b → Padded a n ∨ Padded b n → 4294967295 < n → Malformed s

/-- No word of 32 bits is above the greatest one. -/
theorem toNat_le_greatest (w : UInt32) : w.toNat ≤ 4294967295 :=
  Nat.le_of_lt_succ w.toNat_lt

/-- A position is read from the texts that spell it. -/
theorem cursor?_eq_some_iff {s : List Char} {p : Position} :
    cursor? s = some p ↔ SpellsCursor s p.line.toNat p.character.toNat := by
  have hread : cursor? s = some p ↔ ∃ a b, Text.cut? ':' s = some (a, b) ∧
      Numeral.word32? (Text.trim a) = some p.line ∧
      Numeral.word32? (Text.trim b) = some p.character := by
    simp only [cursor?, bind, Option.bind_eq_some_iff, Prod.exists]
    refine exists_congr fun a => exists_congr fun b => and_congr_right fun _ => ?_
    constructor
    · rintro ⟨l, hl, c, hc, hp⟩
      cases hp
      exact ⟨hl, hc⟩
    · rintro ⟨hl, hc⟩
      exact ⟨p.line, hl, p.character, hc, rfl⟩
  simp only [hread, Text.cut?_eq_some_iff, Numeral.word32?_eq_some_iff, ← padded_iff, and_assoc]
  constructor
  · intro h
    exact ⟨h, toNat_le_greatest _, toNat_le_greatest _⟩
  · exact SpellsCursor.parts

/-- A text that spells a cursor has one colon. -/
theorem SpellsCursor.count_colon {s : List Char} {l c : Nat} (h : SpellsCursor s l c) :
    s.count ':' = 1 := by
  obtain ⟨a, b, rfl, ha, -, hb⟩ := h.parts
  have hb' : ':' ∉ b := mt hb.of_mem (by decide)
  rw [List.count_append, List.count_cons_self, List.count_eq_zero.mpr ha,
    List.count_eq_zero.mpr hb']

/-- Wherever a text of the grammar is taken apart at a colon, its two numerals are on the sides. -/
theorem SpellsCursor.sides {l c : Nat} {a b : List Char} (h : SpellsCursor (a ++ ':' :: b) l c) :
    Padded a l ∧ Padded b c := by
  have ha : ':' ∉ a := by
    have hcount := h.count_colon
    rw [List.count_append, List.count_cons_self] at hcount
    exact List.count_eq_zero.mp (by omega)
  obtain ⟨a', b', hs, ha', hline, hcharacter⟩ := h.parts
  obtain ⟨rfl, rfl⟩ := Text.append_cons_inj_of_not_mem ha ha' hs
  exact ⟨hline, hcharacter⟩

/-- A text that spells a cursor has no minus sign. -/
theorem SpellsCursor.minus_not_mem {s : List Char} {l c : Nat} (h : SpellsCursor s l c) :
    '-' ∉ s := by
  obtain ⟨a, b, rfl, -, ha, hb⟩ := h.parts
  have ha' : '-' ∉ a := mt ha.of_mem (by decide)
  have hb' : '-' ∉ b := mt hb.of_mem (by decide)
  simp [ha', hb']

/-- A text that spells a cursor has none of the defects that are listed. -/
theorem SpellsCursor.not_malformed {s : List Char} {l c : Nat} (h : SpellsCursor s l c) :
    ¬Malformed s := by
  intro hbad
  cases hbad with
  | noColon hcolon =>
      have hcount := h.count_colon
      rw [List.count_eq_zero.mpr hcolon] at hcount
      cases hcount
  | moreColons hcolons => exact absurd h.count_colon (Nat.ne_of_gt hcolons)
  | minus hminus => exact h.minus_not_mem hminus
  | emptySide hs hempty =>
      subst hs
      rcases hempty with ha | hb
      · exact h.sides.1.not_allBlank ha
      · exact h.sides.2.not_allBlank hb
  | overflow hs hside hgreat =>
      subst hs
      rcases hside with ha | hb
      · have hline := h.line_le
        rw [h.sides.1.unique ha] at hline
        omega
      · have hcharacter := h.character_le
        rw [h.sides.2.unique hb] at hcharacter
        omega

/-- The text of a cursor. -/
def cursorText (place : Position) : List Char :=
  Numeral.digits place.line.toNat ++ ':' :: Numeral.digits place.character.toNat

/-- The text of a position reads back as that position. -/
theorem cursor?_cursorText (place : Position) : cursor? (cursorText place) = some place := by
  have hline := padded_digits place.line.toNat
  have hcharacter := padded_digits place.character.toNat
  have hcolon : ':' ∉ Numeral.digits place.line.toNat := mt hline.of_mem (by decide)
  exact cursor?_eq_some_iff.mpr
    ⟨⟨_, _, rfl, hcolon, hline, hcharacter⟩, toNat_le_greatest _, toNat_le_greatest _⟩

/-- A text reads as the cursor at a line and a character exactly when it spells the two numbers. -/
theorem exists_cursor?_iff {s : List Char} {l c : Nat} :
    (∃ p, cursor? s = some p ∧ p.line.toNat = l ∧ p.character.toNat = c) ↔ SpellsCursor s l c := by
  constructor
  · rintro ⟨p, hp, rfl, rfl⟩
    exact cursor?_eq_some_iff.mp hp
  · intro h
    have hl : (UInt32.ofNat l).toNat = l := UInt32.toNat_ofNat_of_lt' (Nat.lt_succ_of_le h.line_le)
    have hc : (UInt32.ofNat c).toNat = c :=
      UInt32.toNat_ofNat_of_lt' (Nat.lt_succ_of_le h.character_le)
    refine ⟨⟨UInt32.ofNat l, UInt32.ofNat c⟩, cursor?_eq_some_iff.mpr ?_, hl, hc⟩
    rwa [hl, hc]

/-- The texts read as a cursor are those of the grammar, with the numbers they spell. All others are
refused, those with a plain fault among them, and every position is read from its own text. -/
theorem cursor?_iff_spellsCursor (s : List Char) :
    (∀ l c : Nat, (∃ p, cursor? s = some p ∧ p.line.toNat = l ∧ p.character.toNat = c) ↔
        SpellsCursor s l c) ∧
      (cursor? s = none ↔ ∀ l c : Nat, ¬SpellsCursor s l c) ∧
      (Malformed s → cursor? s = none) ∧
      ∀ p : Position, cursor? (cursorText p) = some p := by
  have hnone : cursor? s = none ↔ ∀ l c : Nat, ¬SpellsCursor s l c := by
    rw [Option.eq_none_iff_forall_ne_some]
    constructor
    · intro h l c hs
      obtain ⟨p, hp, -⟩ := exists_cursor?_iff.mpr hs
      exact h p hp
    · intro h p hp
      exact h _ _ (cursor?_eq_some_iff.mp hp)
  exact ⟨fun _ _ => exists_cursor?_iff, hnone,
    fun hbad => hnone.mpr fun _ _ h => h.not_malformed hbad, cursor?_cursorText⟩

-- a plus sign, zeros in front, a no-break space and a tab as padding, the greatest word
example : cursor? " +007\u00a0:\t4294967295".toList = some ⟨7, 4294967295⟩ := by decide +kernel

end QuickFix.Command
