import Mathlib.Data.List.Forall2
import QuickFix.Proofs.Text
import QuickFix.Text.Word

/-!
# Blanks at the ends of a text

`Trimmed s` says that no blank stands at the ends of `s`, and `trimmed_iff` that trimming leaves
just these texts as they are. `Respaced s t` says that `s` and `t` differ only in the blanks at
their ends, by what is put there or taken away. That is the same as having one trimmed text
(`respaced_iff`), so an operation that gives the same for a text and for the trimmed text does not
see such blanks at all. For that it is enough that it sees blanks neither before nor behind a text
(`apply_trim`).

The rest of the file is about operations of this kind. Words do not see blanks at the ends
(`words_trim`). A search for the leftmost answer of a reader does not, if the reader answers on no
text that starts with a blank and is not changed by blanks behind its text (`leftmost?_trim`). For
readers that end with a character that is no blank, `exists_of_append_blanks` gives the second part.
-/

set_option autoImplicit false

namespace QuickFix.Text

/-! ## Trimming -/

/-- Blanks in front of a text are trimmed off its start. -/
theorem trimStart_blanks_append {l : List Char} (hl : ∀ c ∈ l, isBlank c = true) (s : List Char) :
    trimStart (l ++ s) = trimStart s :=
  List.dropWhile_append_of_pos hl

/-- Blanks behind a text are trimmed off its end. -/
theorem trimEnd_append_blanks {r : List Char} (hr : ∀ c ∈ r, isBlank c = true) (s : List Char) :
    trimEnd (s ++ r) = trimEnd s := by
  unfold trimEnd
  rw [List.reverse_append, List.dropWhile_append_of_pos]
  intro c hc
  exact hr c (List.mem_reverse.mp hc)

/-- A text that neither starts nor ends with a blank. -/
def Trimmed (s : List Char) : Prop :=
  (∀ c, s.head? = some c → isBlank c = false) ∧ ∀ c, s.getLast? = some c → isBlank c = false

/-- What a trimmed text starts with stands behind the blanks at the start of the text. -/
theorem head?_trimStart {s : List Char} {c : Char} (h : (trim s).head? = some c) :
    (trimStart s).head? = some c := by
  obtain ⟨r, -, hstart⟩ := exists_blanks_trimEnd (trimStart s)
  rw [hstart, List.head?_append]
  show (trim s).head?.or r.head? = some c
  rw [h, Option.some_or]

/-- A text that was trimmed at the end does not end with a blank. -/
theorem isBlank_of_getLast?_trimEnd {s : List Char} {c : Char}
    (h : (trimEnd s).getLast? = some c) : isBlank c = false := by
  unfold trimEnd at h
  rw [List.getLast?_reverse] at h
  obtain ⟨t, ht⟩ := List.head?_eq_some_iff.mp h
  exact of_dropWhile_eq_cons ht

/-- Trimming leaves a trimmed text. -/
theorem trimmed_trim (s : List Char) : Trimmed (trim s) := by
  constructor
  · intro c hc
    obtain ⟨t, ht⟩ := List.head?_eq_some_iff.mp (head?_trimStart hc)
    exact of_dropWhile_eq_cons ht
  · intro c hc
    exact isBlank_of_getLast?_trimEnd hc

/-- A text of which trimming leaves nothing is all blank. -/
theorem isBlank_of_trim_eq_nil {s : List Char} (h : trim s = []) : ∀ c ∈ s, isBlank c = true := by
  obtain ⟨l, r, hl, hr, hs⟩ := exists_blanks_trim s
  rw [hs, h, List.append_nil, List.forall_mem_append]
  exact ⟨hl, hr⟩

/-- Trimming leaves a text as it is exactly if no blank stands at its ends. -/
theorem trimmed_iff (s : List Char) : Trimmed s ↔ trim s = s := by
  constructor
  · intro h
    obtain ⟨l, r, hl, hr, hs⟩ := exists_blanks_trim s
    have hlnil : l = [] := by
      cases l with
      | nil => rfl
      | cons c l =>
          have hc := h.1 c (by rw [hs]; rfl)
          rw [hl c List.mem_cons_self] at hc
          cases hc
    have hrnil : r = [] := by
      rcases List.eq_nil_or_concat r with hnil | ⟨r, c, rfl⟩
      · exact hnil
      · have hc := h.2 c (by rw [hs]; simp)
        rw [hr c (by simp)] at hc
        cases hc
    rw [hlnil, hrnil, List.nil_append, List.append_nil] at hs
    exact hs.symm
  · intro h
    rw [← h]
    exact trimmed_trim s

/-- Nothing is trimmed off the start of a trimmed text. -/
theorem Trimmed.trimStart_eq_self {s : List Char} (h : Trimmed s) : trimStart s = s := by
  cases s with
  | nil => rfl
  | cons c s =>
      have hc := h.1 c rfl
      exact List.dropWhile_cons_of_neg (by simp [hc])

/-- A text without blanks is trimmed. -/
theorem trim_eq_self {s : List Char} (h : ∀ c ∈ s, isBlank c = false) : trim s = s := by
  apply (trimmed_iff s).mp
  constructor
  · intro c hc
    exact h c (List.mem_of_mem_head? hc)
  · intro c hc
    exact h c (List.mem_of_getLast? hc)

/-- Blanks in front of a text do not change what trimming leaves. -/
theorem trim_blanks_append {l : List Char} (hl : ∀ c ∈ l, isBlank c = true) (s : List Char) :
    trim (l ++ s) = trim s := by
  unfold trim
  rw [trimStart_blanks_append hl]

/-- Blanks behind a text do not change what trimming leaves. -/
theorem trim_append_blanks {r : List Char} (hr : ∀ c ∈ r, isBlank c = true) (s : List Char) :
    trim (s ++ r) = trim s := by
  unfold trim
  by_cases h : trimStart s = []
  · -- a text of blanks only: the blanks behind it are then blanks at the start as well
    have hs : ∀ c ∈ s, isBlank c = true := List.dropWhile_eq_nil_iff.mp h
    have hnil : trimStart r = [] := List.dropWhile_eq_nil_iff.mpr hr
    rw [trimStart_blanks_append hs, h, hnil]
  · have hstart : trimStart (s ++ r) = trimStart s ++ r := by
      unfold trimStart at h ⊢
      rw [List.dropWhile_append, if_neg (by simpa using h)]
    rw [hstart, trimEnd_append_blanks hr]

/-- What sees no blanks behind a text is the same for the text that is trimmed at its end. -/
theorem apply_trimEnd {α : Type} {f : List Char → α}
    (hend : ∀ s r, (∀ c ∈ r, isBlank c = true) → f (s ++ r) = f s) (s : List Char) :
    f (trimEnd s) = f s := by
  obtain ⟨r, hr, hs⟩ := exists_blanks_trimEnd s
  calc f (trimEnd s)
      _ = f (trimEnd s ++ r) := (hend (trimEnd s) r hr).symm
      _ = f s := by rw [← hs]

/-- Trimming the end first does not change what trimming leaves. -/
theorem trim_trimEnd (s : List Char) : trim (trimEnd s) = trim s :=
  apply_trimEnd (fun s _ hr => trim_append_blanks hr s) s

/-- A text that starts with something trimmed loses the blanks at its end only. -/
theorem Trimmed.trim_append {p : List Char} (hp : Trimmed p) (hne : p ≠ []) (s : List Char) :
    trim (p ++ s) = p ++ trimEnd s := by
  have hhead : ∀ t : List Char, (p ++ t).head? = p.head? := by
    intro t
    obtain ⟨c, q, hcq⟩ := List.exists_cons_of_ne_nil hne
    rw [hcq]
    rfl
  have htrimmed : Trimmed (p ++ trimEnd s) := by
    constructor
    · intro c hc
      rw [hhead] at hc
      exact hp.1 c hc
    · intro c hc
      rw [List.getLast?_append] at hc
      cases hlast : (trimEnd s).getLast? with
      | none =>
          rw [hlast, Option.none_or] at hc
          exact hp.2 c hc
      | some b =>
          rw [hlast, Option.some_or] at hc
          rw [← Option.some.inj hc]
          exact isBlank_of_getLast?_trimEnd hlast
  obtain ⟨r, hr, hs⟩ := exists_blanks_trimEnd s
  calc trim (p ++ s)
      _ = trim (p ++ trimEnd s ++ r) := by rw [List.append_assoc, ← hs]
      _ = trim (p ++ trimEnd s) := trim_append_blanks hr _
      _ = p ++ trimEnd s := (trimmed_iff _).mp htrimmed

/-- What sees blanks neither before nor behind a text is the same for the trimmed text. -/
theorem apply_trim {α : Type} {f : List Char → α}
    (hstart : ∀ l s, (∀ c ∈ l, isBlank c = true) → f (l ++ s) = f s)
    (hend : ∀ s r, (∀ c ∈ r, isBlank c = true) → f (s ++ r) = f s) (s : List Char) :
    f (trim s) = f s := by
  obtain ⟨l, r, hl, hr, hs⟩ := exists_blanks_trim s
  calc f (trim s)
      _ = f (l ++ trim s) := (hstart l (trim s) hl).symm
      _ = f (l ++ trim s ++ r) := (hend (l ++ trim s) r hr).symm
      _ = f s := by rw [← hs]

/-- Trimming twice is trimming once. -/
@[simp] theorem trim_trim (s : List Char) : trim (trim s) = trim s :=
  apply_trim (fun _ s hl => trim_blanks_append hl s) (fun s _ hr => trim_append_blanks hr s) s

/-- The same text up to the blanks at its two ends. -/
def Respaced (s t : List Char) : Prop :=
  ∃ core l r l' r' : List Char,
    (∀ c ∈ l ++ r, isBlank c = true) ∧ (∀ c ∈ l' ++ r', isBlank c = true) ∧
      s = l ++ core ++ r ∧ t = l' ++ core ++ r'

/-- Texts are the same up to blanks at their ends exactly if their trimmed texts are. -/
theorem respaced_iff (s t : List Char) : Respaced s t ↔ trim s = trim t := by
  constructor
  · rintro ⟨core, l, r, l', r', hblank, hblank', rfl, rfl⟩
    rw [List.forall_mem_append] at hblank hblank'
    rw [trim_append_blanks hblank.2, trim_blanks_append hblank.1, trim_append_blanks hblank'.2,
      trim_blanks_append hblank'.1]
  · intro h
    obtain ⟨l, r, hl, hr, hs⟩ := exists_blanks_trim s
    obtain ⟨l', r', hl', hr', ht⟩ := exists_blanks_trim t
    rw [← h] at ht
    exact ⟨trim s, l, r, l', r', List.forall_mem_append.mpr ⟨hl, hr⟩,
      List.forall_mem_append.mpr ⟨hl', hr'⟩, hs, ht⟩

/-- Texts that are the same up to blanks at their ends are trimmed to the same texts, one by one. -/
theorem map_trim_eq_of_respaced {ss ts : List (List Char)} (h : List.Forall₂ Respaced ss ts) :
    ss.map trim = ts.map trim := by
  induction h with
  | nil => rfl
  | cons hst _ ih => rw [List.map_cons, List.map_cons, ih, (respaced_iff _ _).mp hst]

/-! ## Words and runs -/

/-- Blanks behind a text change none of its words. -/
theorem words_append_blanks {r : List Char} (hr : ∀ c ∈ r, isBlank c = true) (s : List Char) :
    words (s ++ r) = words s := by
  cases r with
  | nil => rw [List.append_nil]
  | cons b r =>
      rw [words_append_blank s r (hr b List.mem_cons_self),
        words_blanks r fun c hc => hr c (List.mem_cons_of_mem b hc), List.append_nil]

/-- Trimming the end of a text changes none of its words. -/
theorem words_trimEnd (s : List Char) : words (trimEnd s) = words s :=
  apply_trimEnd (fun s _ hr => words_append_blanks hr s) s

/-- Trimming a text changes none of its words. -/
@[simp] theorem words_trim (s : List Char) : words (trim s) = words s :=
  apply_trim words_blanks_append (fun s _ hr => words_append_blanks hr s) s

/-- The code points of the blanks. -/
def blankCodes : List Nat :=
  List.range' 0x09 5 ++ [0x20, 0x85, 0xA0, 0x1680] ++ List.range' 0x2000 11 ++
    [0x2028, 0x2029, 0x202F, 0x205F, 0x3000]

/-- The blanks are the characters with the listed code points. -/
theorem isBlank_iff (c : Char) : isBlank c = true ↔ c.toNat ∈ blankCodes := by
  simp only [isBlank, Bool.or_eq_true, Bool.and_eq_true, decide_eq_true_eq, beq_iff_eq, blankCodes,
    List.mem_append, List.mem_range'_1, List.mem_cons, List.not_mem_nil, or_false]
  omega

/-- What holds of the characters with these code points holds of every blank. -/
theorem of_isBlank {P : Char → Prop} (h : ∀ n ∈ blankCodes, P (Char.ofNat n)) {c : Char}
    (hc : isBlank c = true) : P c := by
  have hcode := h c.toNat ((isBlank_iff c).mp hc)
  rwa [Char.ofNat_toNat] at hcode

/-- No blank is part of a word. -/
theorem isWord_of_isBlank {c : Char} (h : isBlank c = true) : isWord c = false :=
  of_isBlank (P := fun c => isWord c = false) (by decide +kernel) h

/-- A run of a class without blanks ends before the blanks behind a text. -/
theorem takeWhile_append_blanks {p : Char → Bool} (hp : ∀ c, isBlank c = true → p c = false)
    {r : List Char} (hr : ∀ c ∈ r, isBlank c = true) (s : List Char) :
    (s ++ r).takeWhile p = s.takeWhile p := by
  induction s with
  | nil =>
      cases r with
      | nil => rfl
      | cons b r =>
          have hb := hp b (hr b List.mem_cons_self)
          exact List.takeWhile_cons_of_neg (by simp [hb])
  | cons c s ih => rw [List.cons_append, List.takeWhile_cons, List.takeWhile_cons, ih]

/-! ## Searches -/

/-- A text that ends with a character other than a blank and stands at the start of a text with
blanks behind it stands before the blanks. -/
theorem exists_of_append_blanks {s r u rest : List Char} {x : Char}
    (hr : ∀ c ∈ r, isBlank c = true) (hx : isBlank x = false) (h : s ++ r = u ++ [x] ++ rest) :
    ∃ rest', s = u ++ [x] ++ rest' ∧ rest = rest' ++ r := by
  rcases List.append_eq_append_iff.mp h with ⟨a, hua, hra⟩ | ⟨b, hsb, hrest⟩
  · -- what reaches over the end of `s` is made of blanks and ends with `x`
    rcases List.eq_nil_or_concat a with rfl | ⟨a, y, rfl⟩
    · refine ⟨[], ?_, ?_⟩
      · rw [hua]
        simp
      · rw [hra]
        rfl
    · rw [List.concat_eq_append, ← List.append_assoc] at hua
      obtain ⟨-, hxy⟩ := List.append_inj' hua rfl
      obtain rfl : x = y := by simpa using hxy
      have hblank : isBlank x = true := hr x (by simp [hra])
      rw [hx] at hblank
      cases hblank
  · exact ⟨b, hsb, hrest⟩

/-- A text that starts with no blank does not stand where a blank does. -/
theorem after?_cons_blank {x c : Char} {p s : List Char} (hc : isBlank c = true)
    (hx : isBlank x = false) : after? (x :: p) (c :: s) = none := by
  have hne : c ≠ x := by
    rintro rfl
    rw [hx] at hc
    cases hc
  exact if_neg hne

/-- Blanks in front of a text do not change what is found in it, if nothing is found at a blank. -/
theorem leftmost?_blanks_append {α : Type} {f : List Char → Option α}
    (hstart : ∀ c s, isBlank c = true → f (c :: s) = none) {l : List Char}
    (hl : ∀ c ∈ l, isBlank c = true) (s : List Char) : leftmost? f (l ++ s) = leftmost? f s := by
  induction l with
  | nil => rfl
  | cons c l ih =>
      rw [List.cons_append, leftmost?, hstart c _ (hl c List.mem_cons_self)]
      exact ih fun x hx => hl x (List.mem_cons_of_mem c hx)

/-- Blanks behind a text do not change what is found in it, if they change nothing at any place and
nothing is found at a blank. -/
theorem leftmost?_append_blanks {α : Type} {f : List Char → Option α}
    (hstart : ∀ c s, isBlank c = true → f (c :: s) = none) {r : List Char}
    (hr : ∀ c ∈ r, isBlank c = true) (hend : ∀ s, f (s ++ r) = f s) (s : List Char) :
    leftmost? f (s ++ r) = leftmost? f s := by
  induction s with
  | nil => simpa using leftmost?_blanks_append hstart hr []
  | cons c s ih =>
      have hc := hend (c :: s)
      rw [List.cons_append] at hc ⊢
      rw [leftmost?, leftmost?, hc, ih]

/-- The leftmost answer in a text is that in the trimmed text, for a reader that sees blanks neither
before nor behind what it reads. -/
theorem leftmost?_trim {α : Type} {f : List Char → Option α}
    (hstart : ∀ c s, isBlank c = true → f (c :: s) = none)
    (hend : ∀ s r, (∀ c ∈ r, isBlank c = true) → f (s ++ r) = f s) (s : List Char) :
    leftmost? f (trim s) = leftmost? f s := by
  apply apply_trim
  · intro l s hl
    exact leftmost?_blanks_append hstart hl s
  · intro s r hr
    exact leftmost?_append_blanks hstart hr (hend · r hr) s

end QuickFix.Text
