import Mathlib.Data.List.TakeWhile
import QuickFix.Text.Match
import QuickFix.Text.Pieces

/-!
# What the operations on texts compute

One statement for each operation that looks for something in a text, in terms of how the text is put
together: what stands after a beginning or before an ending (`after?_eq_some_iff`,
`before?_eq_some_iff`), around the first of a character (`cut?_eq_some_iff`), at the leftmost place
where a reader answers (`leftmost?_eq_some_iff`), between blank ends (`exists_blanks_trim`), and
between separators (`pieces_eq_splitOnP`).

The words of a text are described by a relation of its own, `Worded`: blanks, a word, blanks, a
word, and so on. `worded_iff` says that a text has one list of words, the computed one. All of it
rests on one equation, that words are cut at every blank (`words_append_blank`).
-/

set_option autoImplicit false

namespace QuickFix.Text

/-! ## Beginnings, endings and separators -/

/-- What follows `p` in a text is the rest of a text that starts with `p`. -/
theorem after?_eq_some_iff (p s r : List Char) : after? p s = some r ↔ s = p ++ r := by
  induction p generalizing s with
  | nil => simp [after?]
  | cons x p ih =>
      cases s with
      | nil => simp [after?]
      | cons c s =>
          by_cases h : c = x
          · simp [after?, h, ih]
          · simp [after?, h]

/-- A text is cut off at the end exactly when it stands there. -/
theorem before?_eq_some_iff (p s r : List Char) : before? p s = some r ↔ s = r ++ p := by
  unfold before?
  rw [Option.map_eq_some_iff]
  constructor
  · rintro ⟨t, ht, rfl⟩
    have h := (after?_eq_some_iff p.reverse s.reverse t).mp ht
    simpa using congrArg List.reverse h
  · intro h
    exact ⟨r.reverse, (after?_eq_some_iff p.reverse s.reverse r.reverse).mpr (by simp [h]),
      by simp⟩

/-- A text is not cut at a character exactly when it does not have it. -/
theorem cut?_eq_none_iff (c : Char) (s : List Char) : cut? c s = none ↔ c ∉ s := by
  induction s with
  | nil => simp [cut?]
  | cons x s ih =>
      by_cases h : x = c
      · simp [cut?, h]
      · simp [cut?, h, ih, Ne.symm h]

/-- The cut is at the first of the character. -/
theorem cut?_eq_some_iff (c : Char) (s a b : List Char) :
    cut? c s = some (a, b) ↔ s = a ++ c :: b ∧ c ∉ a := by
  induction s generalizing a with
  | nil => simp [cut?]
  | cons x s ih =>
      by_cases h : x = c
      · subst h
        cases a with
        | nil => simp [cut?]
        | cons y a =>
            simp only [cut?, if_true, List.cons_append, List.cons.injEq, List.mem_cons, not_or]
            constructor
            · intro h
              simp at h
            · rintro ⟨⟨rfl, -⟩, hne, -⟩
              exact absurd rfl hne
      · cases a with
        | nil => simp [cut?, h]
        | cons y a =>
            simp only [cut?, h, if_false, Option.map_eq_some_iff, Prod.exists, Prod.mk.injEq,
              List.cons.injEq, List.cons_append, List.mem_cons, not_or]
            constructor
            · rintro ⟨a', b', hcut, ⟨rfl, rfl⟩, rfl⟩
              obtain ⟨rfl, hmem⟩ := (ih a').mp hcut
              exact ⟨⟨rfl, rfl⟩, Ne.symm h, hmem⟩
            · rintro ⟨⟨rfl, hs⟩, -, hmem⟩
              exact ⟨a, b, (ih a).mpr ⟨hs, hmem⟩, ⟨rfl, rfl⟩, rfl⟩

/-- The first of a character is in one place only. -/
theorem append_cons_inj_of_not_mem {c : Char} {a b a' b' : List Char} (ha : c ∉ a) (ha' : c ∉ a')
    (h : a ++ c :: b = a' ++ c :: b') : a = a' ∧ b = b' := by
  have hcut := (cut?_eq_some_iff c _ a b).mpr ⟨rfl, ha⟩
  have hcut' := (cut?_eq_some_iff c _ a' b').mpr ⟨h, ha'⟩
  exact Prod.mk.inj (Option.some.inj (hcut.symm.trans hcut'))

/-- The leftmost answer is the one with the shortest text before it. -/
theorem leftmost?_eq_some_iff {α : Type} (f : List Char → Option α) (s : List Char) (a : α) :
    leftmost? f s = some a ↔
      ∃ before t, s = before ++ t ∧ f t = some a ∧
        ∀ before' t', s = before' ++ t' → before'.length < before.length → f t' = none := by
  induction s with
  | nil =>
      rw [leftmost?]
      constructor
      · intro h
        exact ⟨[], [], rfl, h, fun _ _ _ hlt => absurd hlt (Nat.not_lt_zero _)⟩
      · rintro ⟨before, t, hs, ht, -⟩
        obtain ⟨-, rfl⟩ := List.append_eq_nil_iff.mp hs.symm
        exact ht
  | cons c s ih =>
      rw [leftmost?]
      cases hhere : f (c :: s) with
      | some b =>
          constructor
          · rintro ⟨rfl⟩
            exact ⟨[], c :: s, rfl, hhere, fun _ _ _ hlt => absurd hlt (Nat.not_lt_zero _)⟩
          · rintro ⟨before, t, hs, ht, hfirst⟩
            cases before with
            | nil =>
                obtain rfl : c :: s = t := hs
                exact hhere.symm.trans ht
            | cons x before =>
                have hnone := hfirst [] (c :: s) rfl (Nat.succ_pos _)
                rw [hhere] at hnone
                cases hnone
      | none =>
          -- nothing is found here, so the places are those in `s`, each one further to the right
          refine ih.trans ⟨?_, ?_⟩
          · rintro ⟨before, t, rfl, ht, hfirst⟩
            refine ⟨c :: before, t, rfl, ht, ?_⟩
            intro before' t' hs hlt
            cases before' with
            | nil =>
                obtain rfl : c :: (before ++ t) = t' := hs
                exact hhere
            | cons x before' =>
                obtain ⟨-, hs⟩ := List.cons.inj hs
                exact hfirst before' t' hs (Nat.lt_of_succ_lt_succ hlt)
          · rintro ⟨before, t, hs, ht, hfirst⟩
            cases before with
            | nil =>
                obtain rfl : c :: s = t := hs
                rw [hhere] at ht
                cases ht
            | cons x before =>
                obtain ⟨rfl, rfl⟩ := List.cons.inj hs
                refine ⟨before, t, rfl, ht, ?_⟩
                intro before' t' hs hlt
                exact hfirst (c :: before') t' (congrArg (c :: ·) hs) (Nat.succ_lt_succ hlt)

/-- Something is found exactly when it is found at the start of some suffix. -/
theorem isSome_leftmost?_iff {α : Type} (f : List Char → Option α) (s : List Char) :
    (leftmost? f s).isSome = true ↔ ∃ t, t <:+ s ∧ (f t).isSome = true := by
  induction s with
  | nil => simp [leftmost?]
  | cons c s ih =>
      rw [leftmost?]
      simp only [List.suffix_cons_iff, or_and_right, exists_or, exists_eq_left]
      cases hhere : f (c :: s) with
      | some a => simp
      | none => simpa using ih

/-- A text occurs in another one if it is an infix of it. -/
theorem occurs_iff_infix (p s : List Char) : occurs p s = true ↔ p <:+: s := by
  have hafter : ∀ t, (after? p t).isSome = true ↔ p <+: t := by
    intro t
    rw [Option.isSome_iff_exists]
    exact exists_congr fun r => (after?_eq_some_iff p t r).trans eq_comm
  unfold occurs
  rw [isSome_leftmost?_iff, List.infix_iff_prefix_suffix]
  exact exists_congr fun t => by rw [hafter, and_comm]

/-- A text that does not occur in another is no infix of it. -/
theorem not_infix_of_occurs {p s : List Char} (h : occurs p s = false) : ¬p <:+: s := by
  rw [← occurs_iff_infix, h]
  exact Bool.false_ne_true

/-! ## Trimming -/

/-- The first character behind a run is outside of its class. -/
theorem of_dropWhile_eq_cons {p : Char → Bool} {s t : List Char} {c : Char}
    (h : s.dropWhile p = c :: t) : p c = false := by
  have hhead := List.head_dropWhile_not p (l := s) (by simp [h])
  simpa only [h, List.head_cons] using hhead

/-- A text is blanks followed by what trimming its start leaves. -/
theorem exists_blanks_trimStart (s : List Char) :
    ∃ l, (∀ c ∈ l, isBlank c = true) ∧ s = l ++ trimStart s := by
  refine ⟨s.takeWhile isBlank, fun c hc => List.mem_takeWhile_imp hc, ?_⟩
  exact List.takeWhile_append_dropWhile.symm

/-- Only blanks are trimmed off the end of a text. -/
theorem exists_blanks_trimEnd (s : List Char) :
    ∃ r, (∀ c ∈ r, isBlank c = true) ∧ s = trimEnd s ++ r := by
  obtain ⟨l, hl, hs⟩ := exists_blanks_trimStart s.reverse
  refine ⟨l.reverse, fun c hc => hl c (List.mem_reverse.mp hc), ?_⟩
  have h := congrArg List.reverse hs
  rwa [List.reverse_reverse, List.reverse_append] at h

/-- A text is its trimmed text between blanks. -/
theorem exists_blanks_trim (s : List Char) :
    ∃ l r, (∀ c ∈ l, isBlank c = true) ∧ (∀ c ∈ r, isBlank c = true) ∧ s = l ++ trim s ++ r := by
  obtain ⟨l, hl, hs⟩ := exists_blanks_trimStart s
  obtain ⟨r, hr, ht⟩ := exists_blanks_trimEnd (trimStart s)
  refine ⟨l, r, hl, hr, ?_⟩
  unfold trim
  rw [List.append_assoc, ← ht]
  exact hs

/-- Trimming brings no character in. -/
theorem mem_of_mem_trim {c : Char} {s : List Char} (h : c ∈ trim s) : c ∈ s := by
  obtain ⟨l, r, -, -, hs⟩ := exists_blanks_trim s
  rw [hs]
  simp [h]

/-! ## Pieces and words -/

/-- The pieces of a text are those of a list that is split at its separators. -/
theorem pieces_eq_splitOnP (p : Char → Bool) (s : List Char) : pieces p s = s.splitOnP p := by
  induction s with
  | nil => simp [pieces]
  | cons c s ih =>
      rw [pieces, ih, List.splitOnP_cons_eq_if_modifyHead]
      by_cases h : p c = true
      · rw [if_pos h, if_pos h]
      · rw [if_neg h, if_neg h]
        obtain ⟨w, ws, hw⟩ := List.exists_cons_of_ne_nil (List.splitOnP_ne_nil p s)
        rw [hw, List.modifyHead_cons]

/-- Pieces are cut at every separator. -/
theorem pieces_append_cons (p : Char → Bool) (s t : List Char) {c : Char} (h : p c = true) :
    pieces p (s ++ c :: t) = pieces p s ++ pieces p t := by
  simp only [pieces_eq_splitOnP]
  exact List.splitOnP_append_cons s t h

/-- A text without separators is one piece. -/
theorem pieces_eq_singleton (p : Char → Bool) (s : List Char) (h : ∀ c ∈ s, p c = false) :
    pieces p s = [s] := by
  rw [pieces_eq_splitOnP]
  exact List.splitOnP_eq_singleton h

/-- A text without the separator is one piece. -/
theorem pieces_eq_singleton_of_not_mem {x : Char} {s : List Char} (h : x ∉ s) :
    pieces (· == x) s = [s] := by
  apply pieces_eq_singleton
  intro c hc
  rw [beq_eq_false_iff_ne]
  rintro rfl
  exact h hc

/-- A piece is made of characters of the text that are no separators. -/
theorem of_mem_of_mem_pieces {p : Char → Bool} {s w : List Char} (hw : w ∈ pieces p s) {c : Char}
    (hc : c ∈ w) : c ∈ s ∧ p c = false := by
  induction s generalizing w with
  | nil =>
      rw [pieces, List.mem_singleton] at hw
      simp [hw] at hc
  | cons x s ih =>
      rw [pieces] at hw
      by_cases hx : p x = true
      · rw [if_pos hx] at hw
        rcases List.mem_cons.mp hw with rfl | hw
        · simp at hc
        · obtain ⟨hmem, hsep⟩ := ih hw hc
          exact ⟨List.mem_cons_of_mem x hmem, hsep⟩
      · rw [if_neg hx] at hw
        cases hs : pieces p s with
        | nil =>
            simp only [hs, List.mem_singleton] at hw
            subst hw
            rw [List.mem_singleton] at hc
            subst hc
            exact ⟨List.mem_cons_self, Bool.eq_false_iff.mpr hx⟩
        | cons first more =>
            -- only the first piece differs from those of the rest, by the character before it
            rw [hs] at hw ih
            rcases List.mem_cons.mp hw with rfl | hw
            · rcases List.mem_cons.mp hc with rfl | hc
              · exact ⟨List.mem_cons_self, Bool.eq_false_iff.mpr hx⟩
              · obtain ⟨hmem, hsep⟩ := ih List.mem_cons_self hc
                exact ⟨List.mem_cons_of_mem x hmem, hsep⟩
            · obtain ⟨hmem, hsep⟩ := ih (List.mem_cons_of_mem first hw) hc
              exact ⟨List.mem_cons_of_mem x hmem, hsep⟩

/-- A character that is no separator is in one of the pieces. -/
theorem exists_mem_pieces {p : Char → Bool} {s : List Char} {c : Char} (hc : c ∈ s)
    (hp : p c = false) : ∃ w ∈ pieces p s, c ∈ w := by
  induction s with
  | nil => cases hc
  | cons x s ih =>
      rw [pieces]
      by_cases hx : p x = true
      · have hrest : c ∈ s := by
          rcases List.mem_cons.mp hc with rfl | hrest
          · rw [hp] at hx
            cases hx
          · exact hrest
        obtain ⟨w, hw, hcw⟩ := ih hrest
        rw [if_pos hx]
        exact ⟨w, List.mem_cons_of_mem _ hw, hcw⟩
      · rw [if_neg hx]
        cases hs : pieces p s with
        | nil =>
            rw [pieces_eq_splitOnP] at hs
            exact absurd hs (List.splitOnP_ne_nil p s)
        | cons first more =>
            rcases List.mem_cons.mp hc with rfl | hrest
            · exact ⟨c :: first, List.mem_cons_self, List.mem_cons_self⟩
            · obtain ⟨w, hw, hcw⟩ := ih hrest
              rw [hs] at hw
              rcases List.mem_cons.mp hw with rfl | hw
              · exact ⟨x :: w, List.mem_cons_self, List.mem_cons_of_mem _ hcw⟩
              · exact ⟨w, List.mem_cons_of_mem _ hw, hcw⟩

/-- Words are cut at every blank. -/
theorem words_append_blank (s t : List Char) {b : Char} (h : isBlank b = true) :
    words (s ++ b :: t) = words s ++ words t := by
  unfold words
  rw [pieces_append_cons isBlank s t h, List.filter_append]

/-- A blank in front of a text changes none of its words. -/
theorem words_cons_blank (s : List Char) {b : Char} (h : isBlank b = true) :
    words (b :: s) = words s := by
  simpa [words, pieces] using words_append_blank [] s h

/-- Blanks at the start of a text belong to no word. -/
theorem words_blanks_append (gap s : List Char) (h : ∀ c ∈ gap, isBlank c = true) :
    words (gap ++ s) = words s := by
  induction gap with
  | nil => rfl
  | cons b gap ih =>
      rw [List.cons_append, words_cons_blank _ (h b (by simp))]
      exact ih fun c hc => h c (List.mem_cons_of_mem b hc)

/-- Blanks make no word. -/
theorem words_blanks (gap : List Char) (h : ∀ c ∈ gap, isBlank c = true) : words gap = [] := by
  simpa [words, pieces] using words_blanks_append gap [] h

/-- A nonempty text without blanks is one word. -/
theorem words_word (w : List Char) (hne : w ≠ []) (h : ∀ c ∈ w, isBlank c = false) :
    words w = [w] := by
  unfold words
  rw [pieces_eq_singleton isBlank w h]
  simp [hne]

/-- The words of a text: blanks stand between them and may stand before the first and after the
last. -/
inductive Worded : List Char → List (List Char) → Prop
  | blanks {s : List Char} : (∀ c ∈ s, isBlank c = true) → Worded s []
  | last {gap w : List Char} :
      (∀ c ∈ gap, isBlank c = true) → w ≠ [] → (∀ c ∈ w, isBlank c = false) →
      Worded (gap ++ w) [w]
  | word {gap w rest : List Char} {b : Char} {ws : List (List Char)} :
      (∀ c ∈ gap, isBlank c = true) → w ≠ [] → (∀ c ∈ w, isBlank c = false) →
      isBlank b = true → Worded rest ws → Worded (gap ++ w ++ b :: rest) (w :: ws)

/-- Words that are laid out in a text are the words computed from it. -/
theorem Worded.eq_words {s : List Char} {ws : List (List Char)} (h : Worded s ws) :
    ws = words s := by
  induction h with
  | blanks hs => exact (words_blanks _ hs).symm
  | last hgap hne hw => rw [words_blanks_append _ _ hgap, words_word _ hne hw]
  | word hgap hne hw hsep _ ih =>
      rw [List.append_assoc, words_blanks_append _ _ hgap, words_append_blank _ _ hsep,
        words_word _ hne hw, ← ih, List.singleton_append]

/-- Every text is laid out in words. -/
theorem exists_worded (s : List Char) : ∃ ws, Worded s ws := by
  -- on the length: the blanks at the start, the word behind them, and what follows its separator
  induction hn : s.length using Nat.strong_induction_on generalizing s with
  | _ n ih =>
      obtain ⟨gap, hgap, hs⟩ := exists_blanks_trimStart s
      set t := trimStart s with ht
      set w := t.takeWhile fun c => !isBlank c with hw
      have hword : ∀ c ∈ w, isBlank c = false := by
        intro c hc
        simpa using List.mem_takeWhile_imp hc
      have hsplit : w ++ t.dropWhile (fun c => !isBlank c) = t := List.takeWhile_append_dropWhile
      by_cases hne : t = []
      · refine ⟨[], .blanks ?_⟩
        rwa [hs, hne, List.append_nil]
      · have hwne : w ≠ [] := by
          obtain ⟨c, u, hcu⟩ := List.exists_cons_of_ne_nil hne
          have hc : isBlank c = false := of_dropWhile_eq_cons (p := isBlank) hcu
          rw [hw, hcu, List.takeWhile_cons_of_pos (by simp [hc])]
          exact List.cons_ne_nil _ _
        cases hu : t.dropWhile (fun c => !isBlank c) with
        | nil =>
            rw [hu, List.append_nil] at hsplit
            rw [hs, ← hsplit]
            exact ⟨[w], .last hgap hwne hword⟩
        | cons b rest =>
            have hb : isBlank b = true := by simpa using of_dropWhile_eq_cons hu
            rw [hu] at hsplit
            have hlength : rest.length < n := by
              rw [← hn, hs, ← hsplit]
              simp only [List.length_append, List.length_cons]
              omega
            obtain ⟨ws, hws⟩ := ih rest.length hlength rest rfl
            rw [hs, ← hsplit, ← List.append_assoc]
            exact ⟨w :: ws, .word hgap hwne hword hb hws⟩

/-- A text has one list of words, the one that is computed. -/
theorem worded_iff (s : List Char) (ws : List (List Char)) : Worded s ws ↔ ws = words s := by
  constructor
  · exact Worded.eq_words
  · intro h
    obtain ⟨vs, hvs⟩ := exists_worded s
    rw [h, ← hvs.eq_words]
    exact hvs

/-- No word has a blank. -/
theorem not_isBlank_of_mem_words {s w : List Char} (hw : w ∈ words s) {c : Char} (hc : c ∈ w) :
    isBlank c = false :=
  (of_mem_of_mem_pieces (List.mem_filter.mp hw).1 hc).2

end QuickFix.Text
