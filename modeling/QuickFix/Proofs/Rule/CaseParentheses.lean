import QuickFix.Proofs.Parentheses
import QuickFix.Proofs.Rule.MatchCases

/-!
# Parentheses of the patterns for missing cases

A line of values is cut at its bars, and one parenthesis is taken off at each end first, where one
stands. Both are done without a look at what the parentheses enclose, so that a line with balanced
parentheses can give patterns whose parentheses do not pair up.

This file says when that does not happen. A pattern is balanced exactly if its value is `Closed`
(`balanced_iff_closed`). The values of a line are all balanced exactly if the line is `Separable`
(`forall_alternatives_balanced_iff`): it is one value, or its bars stand outside of parentheses,
apart from one pair around them all. The patterns of a separable line are balanced.
-/

set_option autoImplicit false

namespace QuickFix.Rule

open Text (Balanced CutOutside IsNeutral depthAfter?)

/-- The parentheses of a value pair up in its pattern: as they stand if the value has no space, and
otherwise with the payload one level deeper, since it gets a pair of parentheses of its own. -/
def Closed (value : List Char) : Prop :=
  (' ' ∉ Text.trim value → Balanced (Text.trim value)) ∧
    ∀ name payload, Text.trim value = name ++ ' ' :: payload → ' ' ∉ name →
      ∃ d, depthAfter? name 0 = some d ∧ depthAfter? payload (d + 1) = some 1

/-- The values of a text can be told apart at its bars: there is none, or the bars stand outside of
parentheses, be it inside one pair that encloses the whole text or in a text that neither starts
nor ends with a parenthesis to be taken off. -/
def Separable (s : List Char) : Prop :=
  '|' ∉ s ∨
    (∃ inner, s = '(' :: inner ++ [')'] ∧ Balanced inner ∧ CutOutside '|' inner) ∨
    (s.head? ≠ some '(' ∧ s.getLast? ≠ some ')' ∧ CutOutside '|' s)

/-! ## From a value to its pattern -/

/-- Marking the tag of a value changes no depth. -/
theorem depthAfter?_marked (value : List Char) (d : Nat) :
    depthAfter? (marked value) d = depthAfter? value d := by
  rcases marked_cases value with ⟨-, h⟩ | ⟨tag, rfl, h⟩
  · rw [h]
  · rw [h, Text.depthAfter?_cons_neutral (by simp [IsNeutral]),
      Text.depthAfter?_cons_neutral (by simp [IsNeutral])]

/-- Marking the tag of a value neither brings in nor takes out a space. -/
theorem space_mem_marked_iff (value : List Char) : ' ' ∈ marked value ↔ ' ' ∈ value := by
  rcases marked_cases value with ⟨-, h⟩ | ⟨tag, rfl, h⟩
  · rw [h]
  · simp [h]

/-- The name and the payload of a marked value are those of the value, up to the mark. -/
theorem eq_append_of_marked_eq_append {value name payload : List Char}
    (h : marked value = name ++ ' ' :: payload) (hname : ' ' ∉ name) :
    ∃ name', value = name' ++ ' ' :: payload ∧ ' ' ∉ name' ∧
      depthAfter? name' 0 = depthAfter? name 0 := by
  rcases marked_cases value with ⟨-, hmark⟩ | ⟨tag, rfl, hmark⟩
  · exact ⟨name, hmark ▸ h, hname, rfl⟩
  · cases name with
    | nil =>
        rw [hmark] at h
        cases h
    | cons x name =>
        rw [hmark] at h
        obtain ⟨rfl, rfl⟩ := List.cons.inj h
        refine ⟨'`' :: name, rfl, by simpa using hname, ?_⟩
        rw [Text.depthAfter?_cons_neutral (by simp [IsNeutral]),
          Text.depthAfter?_cons_neutral (by simp [IsNeutral])]

/-- The depth behind a name and its payload in parentheses. -/
theorem balanced_application_iff (name payload : List Char) :
    Balanced (name ++ '(' :: Text.trim payload ++ [')']) ↔
      ∃ d, depthAfter? name 0 = some d ∧ depthAfter? payload (d + 1) = some 1 := by
  unfold Text.Balanced
  rw [List.append_assoc, List.cons_append, Text.depthAfter?_append, Option.bind_eq_some_iff]
  refine exists_congr fun d => and_congr_right fun _ => ?_
  rw [Text.depthAfter?_cons_opening, Text.depthAfter?_append, Text.depthAfter?_trim,
    Option.bind_eq_some_iff]
  constructor
  · rintro ⟨e, hpayload, hclosing⟩
    cases e with
    | zero => cases hclosing
    | succ e =>
        rw [Text.depthAfter?_closing, Option.some.injEq] at hclosing
        rw [hpayload, hclosing]
  · intro hpayload
    exact ⟨1, hpayload, rfl⟩

/-- A pattern is balanced exactly if its value is closed. -/
theorem balanced_iff_closed {value case : List Char} (h : pattern? value = some case) :
    Balanced case ↔ Closed value := by
  obtain ⟨-, -, -, ⟨hspace, rfl⟩ | ⟨name, payload, hsplit, hname, -, rfl⟩⟩ :=
    (pattern?_eq_some_iff value case).mp h
  · rw [space_mem_marked_iff] at hspace
    have hmarked : Balanced (marked (Text.trim value)) ↔ Balanced (Text.trim value) := by
      unfold Text.Balanced
      rw [depthAfter?_marked]
    rw [hmarked]
    constructor
    · intro hbalanced
      refine ⟨fun _ => hbalanced, ?_⟩
      intro name payload hsplit _
      exact absurd (by simp [hsplit]) hspace
    · intro hclosed
      exact hclosed.1 hspace
  · rw [balanced_application_iff]
    obtain ⟨name', hsplit', hname', hdepth⟩ := eq_append_of_marked_eq_append hsplit hname
    rw [← hdepth]
    constructor
    · intro hpayload
      refine ⟨fun hspace => absurd (by simp [hsplit']) hspace, ?_⟩
      intro other rest hother hfree
      obtain ⟨rfl, rfl⟩ := Text.append_cons_inj_of_not_mem hname' hfree (hsplit'.symm.trans hother)
      exact hpayload
    · intro hclosed
      exact hclosed.2 name' payload hsplit' hname'

/-- A balanced value is closed: what its name leaves open its payload closes, one level deeper as
well. -/
theorem closed_of_balanced {value : List Char} (h : Balanced value) : Closed value := by
  rw [← Text.balanced_trim_iff] at h
  refine ⟨fun _ => h, ?_⟩
  intro name payload hsplit _
  unfold Text.Balanced at h
  rw [hsplit, Text.depthAfter?_append, Option.bind_eq_some_iff] at h
  obtain ⟨d, hname, hpayload⟩ := h
  rw [Text.depthAfter?_cons_neutral (by simp [IsNeutral])] at hpayload
  exact ⟨d, hname, Text.depthAfter?_add hpayload 1⟩

/-! ## From a line to its values -/

/-- A balanced text is not balanced any more without the parenthesis that it starts with. -/
theorem not_balanced_of_balanced_cons {s : List Char} (h : Balanced ('(' :: s)) : ¬ Balanced s := by
  intro hs
  have hcount := h.count_eq
  rw [List.count_cons_self, List.count_cons_of_ne (by decide), hs.count_eq] at hcount
  omega

/-- A balanced text is not balanced any more without the parenthesis that it ends with. -/
theorem not_balanced_of_balanced_concat {s : List Char} (h : Balanced (s ++ [')'])) :
    ¬ Balanced s := by
  intro hs
  have hcount := h.count_eq
  rw [List.count_append, List.count_append, hs.count_eq] at hcount
  simp at hcount

/-- Taking the outer parentheses off a balanced text and cutting it at its bars gives balanced
values exactly if the text is separable. -/
theorem forall_pieces_inner_balanced_iff {t : List Char} (h : Balanced t) (hbar : '|' ∈ t) :
    (∀ value ∈ Text.pieces (· == '|') (dropClosing ')' (dropOpening '(' t)), Balanced value) ↔
      Separable t := by
  have hneutral : IsNeutral '|' := by simp [IsNeutral]
  rw [Text.forall_pieces_balanced_iff hneutral]
  unfold Separable
  -- the four cases say which of the two parentheses are there to be taken off
  rcases dropOpening_cases '(' t with hopened | ⟨hhead, hopened⟩
  · rcases dropClosing_cases ')' (dropOpening '(' t) with hclosed | ⟨hlast, hclosed⟩
    · generalize dropClosing ')' (dropOpening '(' t) = inner at hclosed
      rw [hclosed] at hopened
      subst hopened
      constructor
      · rintro ⟨hinner, houtside⟩
        exact .inr (.inl ⟨inner, rfl, hinner, houtside⟩)
      · rintro (hnone | ⟨inner', hsame, hinner, houtside⟩ | ⟨hhead, -⟩)
        · exact absurd hbar hnone
        · obtain rfl : inner = inner' := by simpa using hsame
          exact ⟨hinner, houtside⟩
        · exact absurd rfl hhead
    · rw [hclosed]
      generalize dropOpening '(' t = inner at hopened hlast
      subst hopened
      constructor
      · rintro ⟨hinner, -⟩
        exact absurd hinner (not_balanced_of_balanced_cons h)
      · rintro (hnone | ⟨inner', hsame, -⟩ | ⟨hhead, -⟩)
        · exact absurd hbar hnone
        · obtain rfl : inner = inner' ++ [')'] := by simpa using hsame
          exact absurd (by simp) hlast
        · exact absurd rfl hhead
  · rw [hopened]
    rcases dropClosing_cases ')' t with hclosed | ⟨hlast, hclosed⟩
    · generalize dropClosing ')' t = inner at hclosed
      subst hclosed
      constructor
      · rintro ⟨hinner, -⟩
        exact absurd hinner (not_balanced_of_balanced_concat h)
      · rintro (hnone | ⟨inner', hsame, -⟩ | ⟨-, hlast, -⟩)
        · exact absurd hbar hnone
        · exact absurd (by simp [hsame]) hhead
        · exact absurd (by simp) hlast
    · rw [hclosed]
      constructor
      · rintro ⟨-, houtside⟩
        exact .inr (.inr ⟨hhead, hlast, houtside⟩)
      · rintro (hnone | ⟨inner', hsame, -⟩ | ⟨-, -, houtside⟩)
        · exact absurd hbar hnone
        · exact absurd (by simp [hsame]) hhead
        · exact ⟨h, houtside⟩

/-- The values of a balanced line are all balanced exactly if the line is separable. -/
theorem forall_alternatives_balanced_iff {line : List Char} (h : Balanced line) :
    (∀ value ∈ alternatives line, Balanced value) ↔ Separable (Text.trim line) := by
  rw [← Text.balanced_trim_iff] at h
  unfold alternatives
  dsimp only
  by_cases hbar : '|' ∈ Text.trim line
  · rw [if_pos (List.contains_iff_mem.mpr hbar)]
    exact forall_pieces_inner_balanced_iff h hbar
  · rw [if_neg (by simpa using hbar)]
    simp [h, Separable, hbar]

/-- **When patterns keep their parentheses.** On a line with balanced parentheses, every pattern is
balanced exactly if every value that becomes a pattern is closed. All values of the line are
balanced exactly if it is separable, and then all its patterns are. -/
theorem lineCases_balanced_iff (line : List Char) (h : Balanced line) :
    ((∀ case ∈ lineCases line, Balanced case) ↔
      ∀ value ∈ alternatives line, (pattern? value).isSome → Closed value) ∧
    ((∀ value ∈ alternatives line, Balanced value) ↔ Separable (Text.trim line)) ∧
    (Separable (Text.trim line) → ∀ case ∈ lineCases line, Balanced case) := by
  have hexact : (∀ case ∈ lineCases line, Balanced case) ↔
      ∀ value ∈ alternatives line, (pattern? value).isSome → Closed value := by
    constructor
    · intro hcases value hvalue hsome
      obtain ⟨case, hcase⟩ := Option.isSome_iff_exists.mp hsome
      have hmem : case ∈ lineCases line := List.mem_filterMap.mpr ⟨value, hvalue, hcase⟩
      exact (balanced_iff_closed hcase).mp (hcases case hmem)
    · intro hclosed case hmem
      obtain ⟨value, hvalue, hcase⟩ := List.mem_filterMap.mp hmem
      have hsome : (pattern? value).isSome = true := by rw [hcase]; rfl
      exact (balanced_iff_closed hcase).mpr (hclosed value hvalue hsome)
  refine ⟨hexact, forall_alternatives_balanced_iff h, ?_⟩
  intro hseparable
  apply hexact.mpr
  intro value hvalue _
  exact closed_of_balanced ((forall_alternatives_balanced_iff h).mpr hseparable value hvalue)

/-- One pair of parentheses around two values, one of which has a payload with a pair of its own. -/
theorem lineCases_balanced_enclosed :
    Balanced "(`A|B f(x))".toList ∧
      lineCases "(`A|B f(x))".toList = ["#A".toList, "B(f(x))".toList] ∧
      Separable (Text.trim "(`A|B f(x))".toList) ∧
      ∀ case ∈ lineCases "(`A|B f(x))".toList, Balanced case := by
  obtain ⟨-, hvalues, hpatterns⟩ := lineCases_balanced_iff "(`A|B f(x))".toList (by decide)
  have hseparable := hvalues.mp (by decide)
  exact ⟨by decide, by decide, hseparable, hpatterns hseparable⟩

/-- The closing parenthesis of the last value is taken off although no parenthesis stands at the
start, and the pattern of that value is torn. -/
theorem lineCases_torn :
    Balanced "A | Some(x)".toList ∧
      lineCases "A | Some(x)".toList = ["A".toList, "Some(x".toList] ∧
      ¬ ∀ case ∈ lineCases "A | Some(x)".toList, Balanced case := by
  decide

end QuickFix.Rule
