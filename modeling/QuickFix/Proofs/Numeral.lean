import Mathlib.Data.List.Basic
import Mathlib.Data.Nat.Digits.Defs
import QuickFix.Json.Layout
import QuickFix.Text.Blank

/-!
# Digits and the texts of numbers

Writing a number down and reading its digits again gives the number back (`value_digits`). `Spells`
says which numerals a number has, by the places of their digits, and `natural?_eq_some_iff` that
these are the texts read as the number. A number of a JSON text, also one that is a double, is
written with the characters of `isFigure` only.
-/

set_option autoImplicit false

namespace QuickFix.Numeral

/-- The digits are the characters from `0` to `9`. -/
theorem isDigit_iff (c : Char) : isDigit c = true ↔ '0'.toNat ≤ c.toNat ∧ c.toNat ≤ '9'.toNat := by
  simp only [isDigit, Bool.and_eq_true, decide_eq_true_eq, Char.le_def, UInt32.le_iff_toNat_le]
  rfl

/-- No digit is blank. -/
theorem isBlank_of_isDigit {c : Char} (h : isDigit c = true) : Text.isBlank c = false := by
  rw [isDigit_iff] at h
  have hdigit : 48 ≤ c.toNat ∧ c.toNat ≤ 57 := h
  simp only [Text.isBlank, Bool.or_eq_false_iff, Bool.and_eq_false_iff, decide_eq_false_iff_not,
    beq_eq_false_iff_ne]
  omega

/-- The decimal digits of a number are digits. -/
theorem isDigit_of_mem_digits {n : Nat} {c : Char} (h : c ∈ digits n) : isDigit c = true := by
  have hdigit := Nat.isDigit_of_mem_toDigits (by decide) (by decide) h
  simpa [isDigit, Char.isDigit, Char.le_def] using hdigit

/-- Every number has a digit, zero among them. -/
theorem digits_ne_nil (n : Nat) : digits n ≠ [] :=
  Nat.toDigits_ne_nil

/-- The digits of a number have that number as their value. -/
theorem value_digits (n : Nat) : value (digits n) = n := by
  have hfold : ∀ ds : List Char, value ds = Nat.ofDigitChars 10 ds 0 := by
    intro ds
    simp only [value, digitValue, Nat.ofDigitChars, Nat.mul_comm]
  rw [hfold, digits, Nat.ofDigitChars_ten_toDigits]

/-- Only zero is written with a zero in front. -/
theorem head_digits_ne_zero {n : Nat} (h : n ≠ 0) {c : Char} {ds : List Char}
    (hds : digits n = c :: ds) : c ≠ '0' := by
  induction n using Nat.strongRecOn generalizing c ds with
  | _ n ih =>
      rw [digits, Nat.toDigits_eq_if (by decide)] at hds
      split at hds
      · obtain ⟨rfl, -⟩ := List.cons.inj hds
        intro hzero
        rw [Nat.digitChar_eq_zero] at hzero
        exact h hzero
      · obtain ⟨d, ds', hfront⟩ := List.exists_cons_of_ne_nil (digits_ne_nil (n / 10))
        rw [digits] at hfront
        rw [hfront, List.cons_append] at hds
        obtain ⟨rfl, -⟩ := List.cons.inj hds
        exact ih (n / 10) (by omega) (by omega) hfront

/-! ## Numerals -/

/-- One or more decimal digits that stand for `n`: the last one counts ones, the one before it tens,
and so on. Zeros may stand in front. -/
structure DigitsOf (n : Nat) (ds : List Char) : Prop where
  ne_nil : ds ≠ []
  digit : ∀ c ∈ ds, '0' ≤ c ∧ c ≤ '9'
  positional : Nat.ofDigits 10 (ds.reverse.map fun c => c.toNat - '0'.toNat) = n

/-- A numeral for `n`: digits that stand for it, with or without a plus sign. -/
inductive Spells : List Char → Nat → Prop
  | bare {ds : List Char} {n : Nat} : DigitsOf n ds → Spells ds n
  | signed {ds : List Char} {n : Nat} : DigitsOf n ds → Spells ('+' :: ds) n

/-- Digits taken in one after the other give the number they stand for by their places. -/
theorem value_eq_ofDigits (ds : List Char) :
    value ds = Nat.ofDigits 10 (ds.reverse.map fun c => c.toNat - '0'.toNat) := by
  rw [value, Nat.ofDigits_eq_foldr, List.foldr_map, List.foldr_reverse]
  simp only [digitValue, Nat.cast_id, Nat.mul_comm, Nat.add_comm]

/-- A text stands for `n` in decimal exactly when it is a nonempty row of digits with the value
`n`. -/
theorem digitsOf_iff {n : Nat} {ds : List Char} :
    DigitsOf n ds ↔ ds ≠ [] ∧ (∀ c ∈ ds, isDigit c = true) ∧ value ds = n := by
  have hdigit : ∀ c, isDigit c = true ↔ '0' ≤ c ∧ c ≤ '9' := by
    intro c
    rw [isDigit, Bool.and_eq_true, decide_eq_true_eq, decide_eq_true_eq]
  simp only [hdigit, value_eq_ofDigits]
  constructor
  · rintro ⟨hne, hds, hvalue⟩
    exact ⟨hne, hds, hvalue⟩
  · rintro ⟨hne, hds, hvalue⟩
    exact ⟨hne, hds, hvalue⟩

/-- The texts read as `n` are the numerals for `n`. -/
theorem natural?_eq_some_iff {s : List Char} {n : Nat} : natural? s = some n ↔ Spells s n := by
  have hread : ∀ ds : List Char,
      (if ds.isEmpty || !ds.all isDigit then none else some (value ds)) = some n ↔
        DigitsOf n ds := by
    intro ds
    rw [digitsOf_iff]
    simp [and_assoc]
  unfold natural?
  split
  · rw [hread]
    refine ⟨.signed, fun h => ?_⟩
    cases h with
    | bare h => exact absurd (h.digit '+' List.mem_cons_self) (by decide)
    | signed h => exact h
  · rename_i hplus
    rw [hread]
    refine ⟨.bare, fun h => ?_⟩
    cases h with
    | bare h => exact h
    | signed h => exact absurd rfl (hplus _)

/-- A text reads as a word of 32 bits exactly when it spells the number of that word. -/
theorem word32?_eq_some_iff {s : List Char} {w : UInt32} :
    word32? s = some w ↔ Spells s w.toNat := by
  rw [word32?, Option.bind_eq_some_iff, ← natural?_eq_some_iff]
  constructor
  · rintro ⟨n, hn, hw⟩
    split at hw
    · rename_i hlt
      cases hw
      rw [hn, UInt32.toNat_ofNat_of_lt' hlt]
    · cases hw
  · intro h
    refine ⟨w.toNat, h, ?_⟩
    rw [if_pos w.toNat_lt, UInt32.ofNat_toNat]

/-- A text spells at most one number. -/
theorem Spells.unique {s : List Char} {m n : Nat} (hm : Spells s m) (hn : Spells s n) : m = n := by
  rw [← natural?_eq_some_iff] at hm hn
  exact Option.some.inj (hm.symm.trans hn)

/-- The empty text spells no number. -/
theorem Spells.ne_nil {s : List Char} {n : Nat} (h : Spells s n) : s ≠ [] := by
  cases h with
  | bare h => exact h.ne_nil
  | signed h => exact List.cons_ne_nil _ _

/-- A text that spells a number is made of digits and the plus sign. -/
theorem Spells.of_mem {s : List Char} {n : Nat} (h : Spells s n) {c : Char} (hc : c ∈ s) :
    c = '+' ∨ isDigit c = true := by
  cases h with
  | bare h => exact .inr ((digitsOf_iff.mp h).2.1 c hc)
  | signed h => exact (List.mem_cons.mp hc).imp_right ((digitsOf_iff.mp h).2.1 c)

/-- The digits of a number spell it. -/
theorem spells_digits (n : Nat) : Spells (digits n) n :=
  .bare (digitsOf_iff.mpr ⟨digits_ne_nil n, fun _ => isDigit_of_mem_digits, value_digits n⟩)

/-! ## The characters of numbers -/

/-- A character that numbers are written with. -/
def isFigure (c : Char) : Bool :=
  isDigit c || c == '-' || c == '+' || c == '.' || c == 'e'

/-- Every digit is a figure. -/
theorem isFigure_of_isDigit {c : Char} (h : isDigit c = true) : isFigure c = true := by
  simp [isFigure, h]

/-- The decimal digits of a number are figures. -/
theorem isFigure_of_mem_digits {n : Nat} {c : Char} (h : c ∈ digits n) : isFigure c = true :=
  isFigure_of_isDigit (isDigit_of_mem_digits h)

/-- The shortest digits that determine a float are figures. -/
theorem isFigure_of_mem_figures (x : Float) {c : Char} (h : c ∈ (shortest x).figures) :
    isFigure c = true := by
  have hgrid : ∀ k t, c ∈ (Decimal.ofGrid k t).figures → isFigure c = true := by
    intro k t hc
    rw [Decimal.ofGrid, List.mem_reverse] at hc
    have hdigits : c ∈ digits k := List.mem_reverse.mp ((List.dropWhile_sublist _).subset hc)
    exact isFigure_of_mem_digits hdigits
  have hparts : ∃ m q narrow, shortest x = shortestOfParts m q narrow := by
    simp only [shortest]
    split
    · exact ⟨_, _, _, rfl⟩
    · exact ⟨_, _, _, rfl⟩
  obtain ⟨m, q, narrow, hx⟩ := hparts
  rw [hx] at h
  exact hgrid _ _ h

/-- A decimal in positional form is written in figures. -/
theorem isFigure_of_mem_positional {d : Decimal} (hd : ∀ c ∈ d.figures, isFigure c = true)
    {c : Char} (h : c ∈ d.positional) : isFigure c = true := by
  have hzero : isFigure '0' = true := rfl
  have hpoint : isFigure '.' = true := rfl
  unfold Decimal.positional at h
  split at h
  · simp only [List.mem_append, List.mem_cons] at h
    rcases h with (h | h) | rfl | h
    · exact hd c (List.mem_of_mem_take h)
    · rw [List.eq_of_mem_replicate h]
      exact hzero
    · exact hpoint
    · split at h
      · rw [List.mem_singleton.mp h]
        exact hzero
      · exact hd c (List.mem_of_mem_drop h)
  · simp only [List.mem_append, List.mem_cons, List.not_mem_nil, or_false] at h
    rcases h with ((rfl | rfl) | h) | h
    · exact hzero
    · exact hpoint
    · rw [List.eq_of_mem_replicate h]
      exact hzero
    · exact hd c h

/-- A decimal in scientific form is written in figures. -/
theorem isFigure_of_mem_scientific {d : Decimal} (hd : ∀ c ∈ d.figures, isFigure c = true)
    {c : Char} (h : c ∈ d.scientific) : isFigure c = true := by
  unfold Decimal.scientific at h
  simp only [List.mem_append, List.mem_cons] at h
  rcases h with (h | h) | rfl | rfl | h
  · exact hd c (List.mem_of_mem_take h)
  · split at h
    · cases h
    · rcases List.mem_cons.mp h with rfl | h
      · rfl
      · exact hd c (List.mem_of_mem_drop h)
  · rfl
  · split <;> rfl
  · exact isFigure_of_mem_digits h

/-- A float is written in figures, in either layout. -/
theorem isFigure_of_mem_write (l : Layout) (x : Float) {c : Char} (h : c ∈ l.write x) :
    isFigure c = true := by
  have hsign : ∀ s : List Char, s = (if x.toBits.toNat < 0x8000000000000000 then [] else ['-']) →
      c ∈ s → isFigure c = true := by
    rintro s rfl hc
    split at hc
    · cases hc
    · rw [List.mem_singleton.mp hc]
      rfl
  simp only [Layout.write] at h
  by_cases hzero : (x == 0) = true
  · rw [if_pos hzero] at h
    rcases List.mem_append.mp h with h | h
    · exact hsign _ rfl h
    · simp only [List.mem_cons, List.not_mem_nil, or_false] at h
      rcases h with rfl | rfl | rfl <;> rfl
  · rw [if_neg hzero] at h
    rcases List.mem_append.mp h with h | h
    · exact hsign _ rfl h
    · split at h
      · exact isFigure_of_mem_positional (fun _ => isFigure_of_mem_figures x) h
      · exact isFigure_of_mem_scientific (fun _ => isFigure_of_mem_figures x) h

end QuickFix.Numeral

/-- Numbers are written without white space and without quotes. -/
theorem QuickFix.Json.Number.isFigure_of_mem_write (n : Json.Number) {c : Char} (h : c ∈ n.write) :
    Numeral.isFigure c = true := by
  cases n with
  | natural n => exact Numeral.isFigure_of_mem_digits h
  | negative n =>
      rcases List.mem_cons.mp h with rfl | h
      · rfl
      · exact Numeral.isFigure_of_mem_digits h
  | float x => exact Numeral.isFigure_of_mem_write decimals x h
