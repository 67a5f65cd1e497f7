import Mathlib.Data.Nat.Find
import QuickFix.Proofs.Text

/-!
# Searching a line

Two rules look in a line for the first place where something fits. `FirstPlace` says what that place
is without the search, and `leftmost?_eq_some_iff_firstPlace` that the search finds it.

What fits is a sequence of fixed texts and of runs of character classes. `captures` is the meaning
of such a pattern under backtracking: all that its runs can capture at the start of a text, in the
order of preference, where a longer run comes before a shorter one. The rules' readers do not
backtrack; they take the longest run and go on behind it. That is right for a run at the end of a
pattern (`head?_captures_run_last`) and for a run before a text whose first character is not of the
run's class, since a shorter run is then followed by a character that does not fit
(`head?_captures_run_text`).
-/

set_option autoImplicit false

namespace QuickFix.Text

/-! ## Runs and places -/

/-- A text starts with the longest run of a class, and the rest follows it. -/
def StartsWithRun (p : Char → Bool) (s run rest : List Char) : Prop :=
  s = run ++ rest ∧ (∀ c ∈ run, p c = true) ∧ ∀ c, rest.head? = some c → p c = false

/-- The longest run at the start of a text and what follows it are unique. -/
theorem startsWithRun_iff (p : Char → Bool) (s run rest : List Char) :
    StartsWithRun p s run rest ↔ run = s.takeWhile p ∧ rest = s.dropWhile p := by
  constructor
  · rintro ⟨rfl, hrun, hrest⟩
    rw [List.takeWhile_append_of_pos hrun, List.dropWhile_append_of_pos hrun]
    cases rest with
    | nil => simp
    | cons c rest =>
        have hc := hrest c rfl
        rw [List.takeWhile_cons_of_neg (by simp [hc]), List.dropWhile_cons_of_neg (by simp [hc])]
        simp
  · rintro ⟨rfl, rfl⟩
    refine ⟨List.takeWhile_append_dropWhile.symm, ?_, ?_⟩
    · intro c hc
      exact List.mem_takeWhile_imp hc
    · intro c hc
      obtain ⟨t, ht⟩ := List.head?_eq_some_iff.mp hc
      exact of_dropWhile_eq_cons ht

/-- Something fits at the start of `t`, which follows `before` in a text, and at no place further
to the left. -/
structure FirstPlace (fits : List Char → Prop) (s before t : List Char) : Prop where
  text : s = before ++ t
  fit : fits t
  first : ∀ before' t', s = before' ++ t' → fits t' → before.length ≤ before'.length

/-- There is at most one first place. -/
theorem FirstPlace.unique {fits : List Char → Prop} {s before t before' t' : List Char}
    (h : FirstPlace fits s before t) (h' : FirstPlace fits s before' t') :
    before = before' ∧ t = t' := by
  have hle := h.first before' t' h'.text h'.fit
  have hge := h'.first before t h.text h.fit
  apply List.append_inj (h.text.symm.trans h'.text)
  omega

/-- The search for the leftmost answer goes to the first place where the reader answers. -/
theorem leftmost?_eq_some_iff_firstPlace {α : Type} {f : List Char → Option α}
    {fits : List Char → Prop} (hfits : ∀ t, fits t ↔ ∃ a, f t = some a) (s : List Char) (a : α) :
    leftmost? f s = some a ↔ ∃ before t, FirstPlace fits s before t ∧ f t = some a := by
  rw [leftmost?_eq_some_iff]
  constructor
  · rintro ⟨before, t, hs, ht, hfirst⟩
    refine ⟨before, t, ⟨hs, (hfits t).mpr ⟨a, ht⟩, ?_⟩, ht⟩
    intro before' t' hs' hfit'
    by_contra hlt
    obtain ⟨b, hb⟩ := (hfits t').mp hfit'
    rw [hfirst before' t' hs' (by omega)] at hb
    cases hb
  · rintro ⟨before, t, hplace, ht⟩
    refine ⟨before, t, hplace.text, ht, ?_⟩
    intro before' t' hs' hlt
    cases hnone : f t' with
    | none => rfl
    | some b =>
        have hle := hplace.first before' t' hs' ((hfits t').mpr ⟨b, hnone⟩)
        omega

/-- If something fits anywhere, there is a first place. -/
theorem exists_firstPlace {fits : List Char → Prop} {s before t : List Char} (hs : s = before ++ t)
    (hfit : fits t) : ∃ before' t', FirstPlace fits s before' t' := by
  classical
  have hex : ∃ n, ∃ before' t', s = before' ++ t' ∧ fits t' ∧ before'.length = n :=
    ⟨before.length, before, t, hs, hfit, rfl⟩
  obtain ⟨before', t', hs', hfit', hlength⟩ := Nat.find_spec hex
  refine ⟨before', t', hs', hfit', ?_⟩
  intro before'' t'' hs'' hfit''
  rw [hlength]
  exact Nat.find_min' hex ⟨before'', t'', hs'', hfit'', rfl⟩

/-- A text whose first character does not occur before it stands there for the first time. -/
theorem firstPlace_of_not_mem {x : Char} {p before after : List Char} (h : x ∉ before) :
    FirstPlace (x :: p <+: ·) (before ++ (x :: p ++ after)) before (x :: p ++ after) := by
  refine ⟨rfl, List.prefix_append _ _, ?_⟩
  intro before' t' hs hprefix
  obtain ⟨after', rfl⟩ := hprefix
  by_contra hlt
  rcases List.append_eq_append_iff.mp hs with ⟨a, ha, -⟩ | ⟨b, hb, hrest⟩
  · rw [ha, List.length_append] at hlt
    omega
  · -- the earlier occurrence starts inside `before`
    cases b with
    | nil =>
        rw [hb, List.append_nil] at hlt
        exact hlt (Nat.le_refl _)
    | cons y b =>
        obtain ⟨rfl, -⟩ := List.cons.inj hrest
        exact h (by simp [hb])

/-- Mapping what is found does not change where it is found. -/
theorem leftmost?_map {α β : Type} (f : List Char → Option α) (g : α → β) (s : List Char) :
    leftmost? (fun t => (f t).map g) s = (leftmost? f s).map g := by
  induction s with
  | nil => rfl
  | cons c s ih =>
      rw [leftmost?, leftmost?, ih]
      cases f (c :: s) with
      | none => rfl
      | some a => rfl

/-! ## Patterns -/

/-- An element of a pattern: a text, or a run of a class with at least so many characters, which is
captured. -/
inductive Element
  | text (t : List Char)
  | run (p : Char → Bool) (least : Nat)

/-- What the runs of a pattern can capture at the start of a text, the preferred captures first: a
run is tried as long as it can be, and then ever shorter. -/
def captures : List Element → List Char → List (List (List Char))
  | [], _ => [[]]
  | .text t :: elements, s => (after? t s).elim [] (captures elements)
  | .run p least :: elements, s =>
    (List.range' least ((s.takeWhile p).length + 1 - least)).reverse.flatMap fun n =>
      (captures elements (s.drop n)).map (s.take n :: ·)

/-- The preferred captures at the first place of a text where a pattern fits. -/
def search (pattern : List Element) (s : List Char) : Option (List (List Char)) :=
  leftmost? (fun t => (captures pattern t).head?) s

/-- A text in a pattern captures nothing and lets the rest of the pattern go on behind it. -/
theorem head?_captures_text (t : List Char) (elements : List Element) (s : List Char) :
    (captures (.text t :: elements) s).head? =
      (after? t s).bind fun rest => (captures elements rest).head? := by
  rw [captures]
  cases after? t s with
  | none => rfl
  | some rest => rfl

/-- The longest run is preferred, if what comes behind it fits there or fits behind no shorter
one. -/
theorem head?_captures_run {p : Char → Bool} {elements : List Element} {s : List Char}
    (least : Nat) (h : captures elements (s.dropWhile p) ≠ [] ∨
      ∀ n < (s.takeWhile p).length, captures elements (s.drop n) = []) :
    (captures (.run p least :: elements) s).head? =
      if (s.takeWhile p).length < least then none
      else (captures elements (s.dropWhile p)).head?.map (s.takeWhile p :: ·) := by
  have hs : s.takeWhile p ++ s.dropWhile p = s := List.takeWhile_append_dropWhile
  have htake : s.take (s.takeWhile p).length = s.takeWhile p := by
    have hleft : (s.takeWhile p ++ s.dropWhile p).take (s.takeWhile p).length = s.takeWhile p :=
      List.take_left
    rwa [hs] at hleft
  have hdrop : s.drop (s.takeWhile p).length = s.dropWhile p := by
    have hleft : (s.takeWhile p ++ s.dropWhile p).drop (s.takeWhile p).length = s.dropWhile p :=
      List.drop_left
    rwa [hs] at hleft
  rw [captures]
  split
  · rename_i hshort
    have hnone : (s.takeWhile p).length + 1 - least = 0 := by omega
    rw [hnone]
    rfl
  · rename_i hlong
    obtain ⟨d, hd⟩ := Nat.exists_eq_add_of_le (Nat.le_of_not_lt hlong)
    -- the full length of the run comes first, and `d` shorter ones follow
    have hcount : (s.takeWhile p).length + 1 - least = d + 1 := by omega
    rw [hcount, List.range'_concat, List.reverse_append, List.reverse_singleton,
      List.singleton_append, List.flatMap_cons, Nat.one_mul, ← hd, htake, hdrop,
      List.head?_append, List.head?_map]
    rcases h with hfits | hshorter
    · obtain ⟨first, more, hcaptures⟩ := List.exists_cons_of_ne_nil hfits
      rw [hcaptures]
      rfl
    · have hnil : (List.range' least d).reverse.flatMap (fun n =>
          (captures elements (s.drop n)).map (s.take n :: ·)) = [] := by
        rw [List.flatMap_eq_nil_iff]
        intro n hn
        rw [List.mem_reverse, List.mem_range'_1] at hn
        rw [hshorter n (by omega), List.map_nil]
      rw [hnil, List.head?_nil, Option.or_none]

/-- Before a text whose first character is not of the class only the longest run fits. -/
theorem head?_captures_run_text {p : Char → Bool} {t : List Char} {x : Char}
    (ht : t.head? = some x) (hx : p x = false) (least : Nat) (elements : List Element)
    (s : List Char) :
    (captures (.run p least :: .text t :: elements) s).head? =
      if (s.takeWhile p).length < least then none
      else (captures (.text t :: elements) (s.dropWhile p)).head?.map (s.takeWhile p :: ·) := by
  apply head?_captures_run
  right
  intro n hn
  -- behind a shorter run stands a character of the class
  have hbehind : ∃ c more, s.drop n = c :: more ∧ p c = true := by
    have hne : (s.takeWhile p).drop n ≠ [] := by
      intro hnil
      have hle := List.drop_eq_nil_iff.mp hnil
      omega
    obtain ⟨c, more, hc⟩ := List.exists_cons_of_ne_nil hne
    have hsplit : s.drop n = (s.takeWhile p).drop n ++ s.dropWhile p := by
      rw [← List.drop_append_of_le_length (Nat.le_of_lt hn), List.takeWhile_append_dropWhile]
    refine ⟨c, more ++ s.dropWhile p, by rw [hsplit, hc, List.cons_append], ?_⟩
    exact List.mem_takeWhile_imp (List.mem_of_mem_drop (hc ▸ List.mem_cons_self))
  obtain ⟨c, more, hdrop, hc⟩ := hbehind
  have hne : c ≠ x := by
    rintro rfl
    rw [hc] at hx
    cases hx
  obtain ⟨t, rfl⟩ := List.head?_eq_some_iff.mp ht
  rw [captures, hdrop, after?, if_neg hne]
  rfl

/-- A run at the end of a pattern is captured as long as it is, if it is long enough. -/
theorem head?_captures_run_last (p : Char → Bool) (least : Nat) (s : List Char) :
    (captures [.run p least] s).head? =
      if (s.takeWhile p).length < least then none else some [s.takeWhile p] :=
  head?_captures_run least (.inl (List.cons_ne_nil _ _))

end QuickFix.Text
