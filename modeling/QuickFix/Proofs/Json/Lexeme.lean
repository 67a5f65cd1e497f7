import QuickFix.Json.Read
import QuickFix.Proofs.Json.Writing
import QuickFix.Proofs.Numeral

/-!
# Reading the lexemes that were written

What a reader makes of written white space, strings and whole numbers: a string is read up to its
closing quote, whatever it holds (`stringBody_flatMap_escaped`), and a whole number up to anything
that does not go on with it (`numberBody_digits`). `Stops` says what may follow a written value.
-/

set_option autoImplicit false

namespace QuickFix.Json

/-- What may follow a value: white space, a comma, a closing bracket, or nothing. -/
def Stops (rest : List Char) : Prop :=
  ∀ c t, rest = c :: t → c ∈ [',', ']', '}'] ∨ isSpace c = true

/-- A value may stand at the end of the text. -/
theorem Stops.nil : Stops [] := by
  rintro c t ⟨⟩

/-- A value may be followed by a comma or a closing bracket. -/
theorem stops_cons {c : Char} (h : c ∈ [',', ']', '}']) (t : List Char) : Stops (c :: t) := by
  rintro c' t' ⟨⟩
  exact .inl h

/-- A value may be followed by white space. -/
theorem Gap.stops_append {gap rest : List Char} (h : Gap gap) (hrest : Stops rest) :
    Stops (gap ++ rest) := by
  cases gap with
  | nil => exact hrest
  | cons c gap =>
      rintro c' t ⟨⟩
      exact .inr (h c List.mem_cons_self)

/-- White space is the space, the line feed, the tab and the carriage return. -/
theorem isSpace_iff (c : Char) :
    isSpace c = true ↔ c = ' ' ∨ c = '\n' ∨ c = '\t' ∨ c = '\r' := by
  simp [isSpace, or_assoc]

/-- No character of a number may follow. -/
theorem Stops.head_ne {c : Char} {t : List Char} (h : Stops (c :: t)) :
    Numeral.isDigit c = false ∧ c ≠ '.' ∧ c ≠ 'e' ∧ c ≠ 'E' := by
  have hc := h c t rfl
  simp only [List.mem_cons, List.not_mem_nil, or_false, isSpace_iff] at hc
  rcases hc with (rfl | rfl | rfl) | rfl | rfl | rfl | rfl <;> decide

/-- A gap is skipped up to the character behind it. -/
theorem skipSpace_append {gap : List Char} (h : Gap gap) {c : Char} (hc : isSpace c = false)
    (t : List Char) : skipSpace (gap ++ c :: t) = c :: t := by
  rw [skipSpace, List.dropWhile_append_of_pos h, List.dropWhile_cons_of_neg (by simp [hc])]

/-- Nothing is skipped before a character that is no white space. -/
theorem skipSpace_cons {c : Char} (hc : isSpace c = false) (t : List Char) :
    skipSpace (c :: t) = c :: t :=
  skipSpace_append Gap.nil hc t

/-! ## Strings -/

/-- A quote ends a string. -/
theorem stringBody_quote (rest : List Char) : stringBody ('"' :: rest) = .ok ([], rest) := by
  rw [stringBody.eq_def]
  simp

/-- A character that needs no escape stands for itself. -/
theorem stringBody_plain {c : Char} (hquote : c ≠ '"') (hbackslash : c ≠ '\\')
    (hcontrol : ¬c.toNat < 0x20) (more : List Char) :
    stringBody (c :: more) = push c (stringBody more) := by
  rw [stringBody.eq_def]
  simp [hquote, hbackslash, hcontrol]

/-- An escape by one letter stands for its character. -/
theorem stringBody_escape {e c : Char} (hu : e ≠ 'u') (h : unescaped? e = some c)
    (more : List Char) : stringBody ('\\' :: e :: more) = push c (stringBody more) := by
  rw [stringBody.eq_def]
  simp [hu, h]

/-- An escaped control character stands for itself. -/
theorem stringBody_unit {a b c d : Char} {n : Nat} (h : unit? a b c d = some n) (hn : n < 0x20)
    (more : List Char) :
    stringBody ('\\' :: 'u' :: a :: b :: c :: d :: more) =
      push (Char.ofNat n) (stringBody more) := by
  have hlow : isLow n = false := by simp [isLow]; omega
  have hhigh : isHigh n = false := by simp [isHigh]; omega
  rw [stringBody.eq_def]
  simp [h, hlow, hhigh]

/-- The four hexadecimal digits of a control character are read back as its code. -/
theorem unit?_hexDigit :
    ∀ n < 0x20, unit? '0' '0' (hexDigit (n / 16)) (hexDigit (n % 16)) = some n := by
  decide

/-- What is written for a character is read as that character. -/
theorem stringBody_escaped_append (c : Char) (more : List Char) :
    stringBody (escaped c ++ more) = push c (stringBody more) := by
  have hcode : ∀ n, c.toNat = n → Char.ofNat n = c := by
    rintro n rfl
    exact Char.ofNat_toNat c
  fun_cases escaped c with
  | case1 h => exact stringBody_escape (by decide) (by rw [h]; rfl) more
  | case2 _ h => exact stringBody_escape (by decide) (by rw [h]; rfl) more
  | case3 _ _ h => exact stringBody_escape (by decide) (by rw [h]; rfl) more
  | case4 _ _ _ h => exact stringBody_escape (by decide) (by rw [h]; rfl) more
  | case5 _ _ _ _ h => exact stringBody_escape (by decide) (by rw [h]; rfl) more
  | case6 _ _ _ _ _ h => exact stringBody_escape (by decide) (by rw [← hcode _ h]; rfl) more
  | case7 _ _ _ _ _ _ h => exact stringBody_escape (by decide) (by rw [← hcode _ h]; rfl) more
  | case8 _ _ _ _ _ _ _ hcontrol =>
      have hunit := stringBody_unit (unit?_hexDigit _ hcontrol) hcontrol more
      rw [hcode _ rfl] at hunit
      exact hunit
  | case9 hquote hbackslash _ _ _ _ _ hcontrol =>
      exact stringBody_plain hquote hbackslash hcontrol more

/-- A written string is read up to its closing quote. -/
theorem stringBody_flatMap_escaped (s rest : List Char) :
    stringBody (s.flatMap escaped ++ '"' :: rest) = .ok (s, rest) := by
  induction s with
  | nil => exact stringBody_quote rest
  | cons c s ih =>
      rw [List.flatMap_cons, List.append_assoc, stringBody_escaped_append, ih, push]

/-! ## Whole numbers -/

/-- Further digits never make a number smaller. -/
theorem le_foldl_digits (ds : List Char) (n : Nat) :
    n ≤ ds.foldl (fun n c => n * 10 + Numeral.digitValue c) n := by
  induction ds generalizing n with
  | nil => exact Nat.le_refl n
  | cons c ds ih =>
      have hstep : n ≤ n * 10 + Numeral.digitValue c := by omega
      exact Nat.le_trans hstep (ih _)

/-- Digits that make a 64-bit number are all taken in. -/
theorem absorb_digits {ds rest : List Char} (hds : ∀ c ∈ ds, Numeral.isDigit c = true)
    (hrest : Stops rest) (n : Nat)
    (hn : ds.foldl (fun n c => n * 10 + Numeral.digitValue c) n < 0x10000000000000000) :
    absorb n (ds ++ rest) = (ds.foldl (fun n c => n * 10 + Numeral.digitValue c) n, rest) := by
  induction ds generalizing n with
  | nil =>
      cases rest with
      | nil => rfl
      | cons c t => simp [absorb, hrest.head_ne.1]
  | cons c ds ih =>
      have hfits : n * 10 + Numeral.digitValue c < 0x10000000000000000 :=
        Nat.lt_of_le_of_lt (le_foldl_digits ds _) hn
      have hdigit := hds c List.mem_cons_self
      simp only [List.cons_append, absorb, hdigit, hfits, decide_true, Bool.and_self, if_true]
      exact ih (fun c hc => hds c (List.mem_cons_of_mem _ hc)) _ hn

/-- A number ends with its whole part where a value may end. -/
theorem wholePart_of_stops (negative : Bool) (n : Nat) {rest : List Char} (h : Stops rest) :
    wholePart negative n 0 rest = .ok (wholeNumber negative n, rest) := by
  cases rest with
  | nil => rfl
  | cons c t =>
      obtain ⟨-, hpoint, he, hE⟩ := h.head_ne
      simp [wholePart, hpoint, he, hE]

/-- The digits of a 64-bit number are read as that number. -/
theorem numberBody_digits {n : Nat} (hn : n < 0x10000000000000000) (negative : Bool)
    {rest : List Char} (hrest : Stops rest) :
    numberBody negative (Numeral.digits n ++ rest) = .ok (wholeNumber negative n, rest) := by
  -- behind a zero no digits are read, so that zero is a case of its own
  by_cases hzero : n = 0
  · have hdigits : Numeral.digits n = ['0'] := by rw [hzero]; decide
    rw [hdigits, List.singleton_append, hzero]
    cases rest with
    | nil => rfl
    | cons c t =>
        simp only [numberBody, if_true, hrest.head_ne.1, Bool.false_eq_true, if_false]
        exact wholePart_of_stops negative 0 hrest
  · obtain ⟨c, ds, hds⟩ := List.exists_cons_of_ne_nil (Numeral.digits_ne_nil n)
    have hall : ∀ d ∈ Numeral.digits n, Numeral.isDigit d = true :=
      fun d => Numeral.isDigit_of_mem_digits
    have habsorb : absorb 0 (Numeral.digits n ++ rest) = (n, rest) := by
      have hvalue : (Numeral.digits n).foldl (fun n c => n * 10 + Numeral.digitValue c) 0 = n :=
        Numeral.value_digits n
      rw [absorb_digits hall hrest 0 (by rw [hvalue]; exact hn), hvalue]
    have hnone : rest.takeWhile Numeral.isDigit = [] ∧ rest.dropWhile Numeral.isDigit = rest := by
      cases rest with
      | nil => exact ⟨rfl, rfl⟩
      | cons c t => simp [hrest.head_ne.1]
    have hc0 := Numeral.head_digits_ne_zero hzero hds
    have hdigit : Numeral.isDigit c = true := hall c (by rw [hds]; exact List.mem_cons_self)
    rw [hds, List.cons_append] at habsorb ⊢
    simp only [numberBody, hc0, if_false, hdigit, if_true, habsorb, hnone, List.length_nil]
    exact wholePart_of_stops negative n hrest

/-- A word of 64 bits is read as a natural number. -/
theorem wholeNumber_toNat (n : UInt64) : wholeNumber false n.toNat = .natural n := by
  simp [wholeNumber]

/-- The negative numbers of 64 bits are read as such. -/
theorem wholeNumber_succ (n : Fin 0x8000000000000000) :
    wholeNumber true (n.val + 1) = .negative n := by
  have hfits : ¬0x8000000000000000 < n.val + 1 := by omega
  simp [wholeNumber, hfits, Number.belowZero]

end QuickFix.Json
