import Mathlib.Data.List.Basic
import QuickFix.Proofs.Text

/-!
# Round parentheses in a text

The depth of parentheses along a text, and texts whose parentheses pair up. The depth is carried
from character to character and is lost when a parenthesis closes that was not opened, so that
`depthAfter?_append` alone takes it over concatenations; entering a text deeper only shifts it
(`depthAfter?_add`).

`forall_pieces_balanced_iff` is about cutting a text at a character: all pieces are balanced exactly
if the text is and every cut is made outside of parentheses.
-/

set_option autoImplicit false

namespace QuickFix.Text

/-- The depth behind a character, unless it closes a parenthesis that was not opened. -/
def depthBehind? (d : Nat) (c : Char) : Option Nat :=
  if c = '(' then some (d + 1)
  else if c = ')' then (if d = 0 then none else some (d - 1))
  else some d

/-- The depth behind a text that is entered at a depth. -/
def depthAfter? (s : List Char) (d : Nat) : Option Nat :=
  s.foldlM depthBehind? d

/-- The parentheses of a text pair up. -/
def Balanced (s : List Char) : Prop :=
  depthAfter? s 0 = some 0

instance (s : List Char) : Decidable (Balanced s) :=
  inferInstanceAs (Decidable (_ = _))

/-- A character that is no parenthesis. -/
def IsNeutral (c : Char) : Prop :=
  c ≠ '(' ∧ c ≠ ')'

/-! ## The walk along a text -/

/-- The empty text leaves the depth as it is. -/
@[simp] theorem depthAfter?_nil (d : Nat) : depthAfter? [] d = some d := rfl

/-- The walk along a text goes on at the depth behind its first character. -/
theorem depthAfter?_cons (c : Char) (s : List Char) (d : Nat) :
    depthAfter? (c :: s) d = (depthBehind? d c).bind (depthAfter? s) :=
  List.foldlM_cons

/-- An opening parenthesis leads one level down. -/
@[simp] theorem depthAfter?_cons_opening (s : List Char) (d : Nat) :
    depthAfter? ('(' :: s) d = depthAfter? s (d + 1) := rfl

/-- A closing parenthesis leads one level up. -/
@[simp] theorem depthAfter?_closing (d : Nat) : depthAfter? [')'] (d + 1) = some d := rfl

/-- The depth behind two texts is that behind the second, entered at the depth behind the first. -/
theorem depthAfter?_append (s t : List Char) (d : Nat) :
    depthAfter? (s ++ t) d = (depthAfter? s d).bind (depthAfter? t) :=
  List.foldlM_append

/-- A character that is no parenthesis leaves the depth as it is. -/
theorem depthAfter?_cons_neutral {c : Char} (h : IsNeutral c) (s : List Char) (d : Nat) :
    depthAfter? (c :: s) d = depthAfter? s d := by
  rw [depthAfter?_cons, depthBehind?, if_neg h.1, if_neg h.2]
  rfl

/-- A text without parentheses leaves the depth as it is. -/
theorem depthAfter?_neutral {s : List Char} (h : ∀ c ∈ s, IsNeutral c) (d : Nat) :
    depthAfter? s d = some d := by
  induction s with
  | nil => rfl
  | cons c s ih =>
      rw [depthAfter?_cons_neutral (h c List.mem_cons_self)]
      exact ih fun c hc => h c (List.mem_cons_of_mem _ hc)

/-- Entering a text deeper leaves it so much deeper. -/
theorem depthAfter?_add {s : List Char} {d e : Nat} (h : depthAfter? s d = some e) (k : Nat) :
    depthAfter? s (d + k) = some (e + k) := by
  induction s generalizing d with
  | nil =>
      rw [depthAfter?_nil, Option.some.injEq] at h
      rw [h, depthAfter?_nil]
  | cons c s ih =>
      rw [depthAfter?_cons] at h ⊢
      obtain ⟨f, hstep, hrest⟩ := Option.bind_eq_some_iff.mp h
      -- a parenthesis that can be closed at a depth can be closed further down
      have hdeeper : depthBehind? (d + k) c = some (f + k) := by
        unfold depthBehind? at hstep ⊢
        split at hstep
        · rename_i hopen
          rw [if_pos hopen]
          cases hstep
          congr 1
          omega
        · rename_i hopen
          rw [if_neg hopen]
          split at hstep
          · rename_i hclose
            rw [if_pos hclose]
            split at hstep
            · cases hstep
            · rw [if_neg (by omega)]
              cases hstep
              congr 1
              omega
          · rename_i hclose
            rw [if_neg hclose]
            cases hstep
            rfl
      rw [hdeeper]
      exact ih hrest

/-- The depth grows by the parentheses that open and falls by those that close. -/
theorem count_of_depthAfter? {s : List Char} {d e : Nat} (h : depthAfter? s d = some e) :
    d + s.count '(' = e + s.count ')' := by
  induction s generalizing d with
  | nil =>
      rw [depthAfter?_nil, Option.some.injEq] at h
      simp [h]
  | cons c s ih =>
      rw [depthAfter?_cons] at h
      obtain ⟨f, hstep, hrest⟩ := Option.bind_eq_some_iff.mp h
      have htail := ih hrest
      unfold depthBehind? at hstep
      split at hstep
      · rename_i hopen
        cases hstep
        subst hopen
        rw [List.count_cons_self, List.count_cons_of_ne (by decide)]
        omega
      · rename_i hopen
        split at hstep
        · rename_i hclose
          subst hclose
          split at hstep
          · cases hstep
          · cases hstep
            rw [List.count_cons_self, List.count_cons_of_ne (by decide)]
            omega
        · rename_i hclose
          cases hstep
          rw [List.count_cons_of_ne hopen, List.count_cons_of_ne hclose]
          exact htail

/-! ## Balanced texts -/

/-- A balanced text has as many opening parentheses as closing ones. -/
theorem Balanced.count_eq {s : List Char} (h : Balanced s) : s.count '(' = s.count ')' := by
  have hcount := count_of_depthAfter? h
  omega

/-- A balanced text leaves the depth behind it to what follows. -/
theorem Balanced.depthAfter?_append_left {s : List Char} (h : Balanced s) (t : List Char) :
    depthAfter? (s ++ t) 0 = depthAfter? t 0 := by
  rw [depthAfter?_append, h]
  rfl

/-- Blanks are no parentheses, so that trimming a text keeps its depth. -/
theorem depthAfter?_trim (s : List Char) (d : Nat) : depthAfter? (trim s) d = depthAfter? s d := by
  have hneutral : ∀ t : List Char, (∀ c ∈ t, isBlank c = true) → ∀ c ∈ t, IsNeutral c := by
    intro t ht c hc
    constructor
    · rintro rfl
      exact absurd (ht _ hc) (by decide)
    · rintro rfl
      exact absurd (ht _ hc) (by decide)
  obtain ⟨l, r, hl, hr, hs⟩ := exists_blanks_trim s
  conv_rhs => rw [hs]
  rw [depthAfter?_append, depthAfter?_append, depthAfter?_neutral (hneutral l hl), Option.bind_some]
  cases depthAfter? (trim s) d with
  | none => rfl
  | some e => rw [Option.bind_some, depthAfter?_neutral (hneutral r hr)]

/-- A text is balanced exactly when it is so trimmed. -/
theorem balanced_trim_iff (s : List Char) : Balanced (trim s) ↔ Balanced s := by
  unfold Balanced
  rw [depthAfter?_trim]

/-- Behind a balanced text and a neutral character, balance depends on the rest alone. -/
theorem Balanced.append_cons_iff {s : List Char} (h : Balanced s) {x : Char} (hx : IsNeutral x)
    (t : List Char) : Balanced (s ++ x :: t) ↔ Balanced t := by
  unfold Balanced
  rw [h.depthAfter?_append_left, depthAfter?_cons_neutral hx]

/-! ## Cutting a text -/

/-- Every cut of a text at a character is made outside of parentheses. -/
def CutOutside (x : Char) (s : List Char) : Prop :=
  ∀ a b, s = a ++ x :: b → Balanced a

/-- The pieces of a text are all balanced exactly if the text is and is cut outside of parentheses
only. -/
theorem forall_pieces_balanced_iff {x : Char} (hx : IsNeutral x) (s : List Char) :
    (∀ w ∈ pieces (· == x) s, Balanced w) ↔ Balanced s ∧ CutOutside x s := by
  -- on the length: the text up to its first cut is a piece, the others are those of the rest
  induction hn : s.length using Nat.strong_induction_on generalizing s with
  | _ n ih =>
      cases hcut : cut? x s with
      | none =>
          have hmem := (cut?_eq_none_iff x s).mp hcut
          have houtside : CutOutside x s := by
            intro a b hs
            exact absurd (by simp [hs]) hmem
          rw [pieces_eq_singleton_of_not_mem hmem]
          simp [houtside]
      | some parts =>
          obtain ⟨a, b⟩ := parts
          obtain ⟨hs, ha⟩ := (cut?_eq_some_iff x s a b).mp hcut
          have hpieces : pieces (· == x) s = a :: pieces (· == x) b := by
            rw [hs, pieces_append_cons (· == x) a b (beq_self_eq_true x),
              pieces_eq_singleton_of_not_mem ha]
            rfl
          have hlength : b.length < n := by
            rw [← hn, hs, List.length_append, List.length_cons]
            omega
          rw [hpieces, List.forall_mem_cons, ih b.length hlength b rfl]
          constructor
          · rintro ⟨hbalanced, hrest, houtside⟩
            refine ⟨by rw [hs]; exact (hbalanced.append_cons_iff hx b).mpr hrest, ?_⟩
            intro a' b' hs'
            rw [hs] at hs'
            rcases List.append_eq_append_iff.mp hs' with ⟨t, rfl, hb⟩ | ⟨t, rfl, hb'⟩
            · cases t with
              | nil => simpa using hbalanced
              | cons y t =>
                  obtain ⟨rfl, htail⟩ := List.cons.inj hb
                  exact (hbalanced.append_cons_iff hx t).mpr (houtside t b' htail)
            · cases t with
              | nil => simpa using hbalanced
              | cons y t =>
                  obtain ⟨rfl, -⟩ := List.cons.inj hb'
                  exact absurd (by simp) ha
          · rintro ⟨hbalanced, houtside⟩
            have hfirst : Balanced a := houtside a b hs
            refine ⟨hfirst, ?_, ?_⟩
            · rw [hs] at hbalanced
              exact (hfirst.append_cons_iff hx b).mp hbalanced
            · intro a' b' hb
              have hlonger : Balanced (a ++ x :: a') := houtside _ b' (by rw [hs, hb]; simp)
              exact (hfirst.append_cons_iff hx a').mp hlonger

end QuickFix.Text
