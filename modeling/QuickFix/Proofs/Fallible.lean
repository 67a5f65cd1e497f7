import Mathlib.Data.List.Basic

/-!
# Computations that may fail

What it takes for a chain of computations, or a fold over a list, to come to a result.
-/

set_option autoImplicit false

namespace QuickFix

variable {ε α β : Type}

/-- A sequence of two steps succeeds exactly when both do. -/
theorem bind_eq_ok_iff {x : Except ε α} {f : α → Except ε β} {b : β} :
    (x >>= f) = .ok b ↔ ∃ a, x = .ok a ∧ f a = .ok b := by
  cases x <;> simp [bind, Except.bind]

/-- A mapped result is a success exactly when the result is one. -/
theorem map_eq_ok_iff {x : Except ε α} {f : α → β} {b : β} :
    x.map f = .ok b ↔ ∃ a, x = .ok a ∧ f a = b := by
  cases x <;> simp [Except.map]

/-- Renaming the error neither makes a success nor changes one. -/
theorem mapError_eq_ok_iff {ε' : Type} {x : Except ε α} {f : ε → ε'} {a : α} :
    x.mapError f = .ok a ↔ x = .ok a := by
  cases x <;> simp [Except.mapError]

/-- A run over a list with a head succeeds exactly when the first step does and the run over the
tail does from there. -/
theorem foldlM_cons_eq_ok_iff {step : β → α → Except ε β} {b r : β} {a : α} {as : List α} :
    (a :: as).foldlM step b = .ok r ↔ ∃ b', step b a = .ok b' ∧ as.foldlM step b' = .ok r := by
  rw [List.foldlM_cons, bind_eq_ok_iff]

/-- A run over two lists succeeds exactly when it passes through a state between them. -/
theorem foldlM_append_eq_ok_iff {step : β → α → Except ε β} {b r : β} {as as' : List α} :
    (as ++ as').foldlM step b = .ok r ↔
      ∃ b', as.foldlM step b = .ok b' ∧ as'.foldlM step b' = .ok r := by
  rw [List.foldlM_append, bind_eq_ok_iff]

/-- A fold stops at the first step that does. -/
theorem foldlM_eq_error_iff {step : β → α → Except ε β} {b : β} {as : List α} {e : ε} :
    as.foldlM step b = .error e ↔ ∃ before a after b', as = before ++ a :: after ∧
      before.foldlM step b = .ok b' ∧ step b' a = .error e := by
  constructor
  · intro h
    -- the first step stops, or the fold over the rest does, from the state behind that step
    induction as generalizing b with
    | nil => cases h
    | cons a as ih =>
        cases hstep : step b a with
        | error e' =>
            rw [List.foldlM_cons, hstep] at h
            cases h
            exact ⟨[], a, as, b, rfl, rfl, hstep⟩
        | ok b₁ =>
            rw [List.foldlM_cons, hstep] at h
            obtain ⟨before, a', after, b', rfl, hbefore, hstop⟩ := ih h
            exact ⟨a :: before, a', after, b', rfl,
              foldlM_cons_eq_ok_iff.mpr ⟨b₁, hstep, hbefore⟩, hstop⟩
  · rintro ⟨before, a, after, b', rfl, hbefore, hstop⟩
    rw [List.foldlM_append, hbefore]
    change (a :: after).foldlM step b' = .error e
    rw [List.foldlM_cons, hstop]
    rfl

/-- What each step of a fold keeps, a fold that comes to a result keeps. -/
theorem of_foldlM_eq_ok {step : β → α → Except ε β} {as : List α} {P : β → Prop}
    (hstep : ∀ b a b', a ∈ as → step b a = .ok b' → P b → P b') {b r : β}
    (h : as.foldlM step b = .ok r) (hb : P b) : P r := by
  induction as generalizing b with
  | nil =>
      rw [← Except.ok.inj h]
      exact hb
  | cons a as ih =>
      obtain ⟨b', hb', hr⟩ := foldlM_cons_eq_ok_iff.mp h
      exact ih (fun b a b' ha => hstep b a b' (List.mem_cons_of_mem _ ha)) hr
        (hstep b a b' List.mem_cons_self hb' hb)

end QuickFix
