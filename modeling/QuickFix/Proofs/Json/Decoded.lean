import Mathlib.Data.List.DropRight
import QuickFix.Proofs.Fallible
import QuickFix.Proofs.Json.Reading

/-!
# The shape of what was read

A value that was read has the shape `Decoded`: its containers are nested no deeper than the reader
allows, and the keys of its objects ascend (`decoded_of_value`). The loops over items and members
come first, with what they keep of each step.
-/

set_option autoImplicit false

namespace QuickFix.Json

/-! ## Loops -/

/-- A container that is closed was read before. -/
theorem closed_eq_ok {α : Type} {ending : List Char → Ending} {r : Except Fault (α × List Char)}
    {a : α} {rest : List Char} (h : closed ending r = .ok (a, rest)) :
    ∃ rest', r = .ok (a, rest') := by
  cases r with
  | error f =>
      cases f <;> cases h
  | ok read =>
      obtain ⟨a', rest'⟩ := read
      simp only [closed] at h
      split at h
      · cases h
        exact ⟨rest', rfl⟩
      · cases h

/-- Every item of a list that was read was read by the reader of items. -/
theorem of_mem_items {α : Type} {item : Reader α} {n : Nat} {first : Bool} {s rest : List Char}
    {as : List α} (h : items item n first s = .ok (as, rest)) {a : α} (ha : a ∈ as) :
    ∃ s rest, item s = .ok (a, rest) := by
  induction n generalizing first s as with
  | zero => cases h
  | succ n ih =>
      obtain ⟨⟨goesOn, s'⟩, -, h⟩ := bind_eq_ok_iff.mp h
      cases goesOn with
      | false =>
          cases h
          cases ha
      | true =>
          obtain ⟨⟨a', s''⟩, hitem, h⟩ := bind_eq_ok_iff.mp h
          obtain ⟨⟨as', s'''⟩, hitems, h⟩ := bind_eq_ok_iff.mp h
          cases h
          rcases List.mem_cons.mp ha with rfl | ha
          · exact ⟨s', s'', hitem⟩
          · exact ih hitems ha

/-- What every member preserves holds behind the loop over members. -/
theorem of_byKey {σ : Type} {step : σ → String → Reader σ} {P : σ → Prop}
    (hstep : ∀ d key s d' rest, step d key s = .ok (d', rest) → P d → P d') {n : Nat}
    {first : Bool} {d d' : σ} {s rest : List Char} (h : byKey step n first d s = .ok (d', rest))
    (hd : P d) : P d' := by
  induction n generalizing first d s with
  | zero => cases h
  | succ n ih =>
      obtain ⟨⟨key, s'⟩, -, h⟩ := bind_eq_ok_iff.mp h
      cases key with
      | none =>
          cases h
          exact hd
      | some key =>
          obtain ⟨⟨d₁, s''⟩, hread, h⟩ := bind_eq_ok_iff.mp h
          exact ih h (hstep d _ s' d₁ s'' hread hd)

/-! ## Values -/

/-- Putting a member in brings in no other one. -/
theorem mem_insertMember {key : String} {v : Json} {ms : List (String × Json)} {m : String × Json}
    (h : m ∈ insertMember key v ms) : m = (key, v) ∨ m ∈ ms := by
  induction ms with
  | nil => exact .inl (List.mem_singleton.mp h)
  | cons m' ms ih =>
      obtain ⟨k, w⟩ := m'
      simp only [insertMember] at h
      split at h
      · exact (List.mem_cons.mp h).imp_right (List.mem_cons_of_mem _)
      · split at h
        · exact List.mem_cons.mp h
        · rcases List.mem_cons.mp h with rfl | h
          · exact .inr List.mem_cons_self
          · exact (ih h).imp_right (List.mem_cons_of_mem _)

/-- Keys stay in ascending order. -/
theorem pairwise_insertMember {key : String} {v : Json} {ms : List (String × Json)}
    (h : ms.Pairwise fun a b => a.1 < b.1) :
    (insertMember key v ms).Pairwise fun a b => a.1 < b.1 := by
  induction ms with
  | nil => exact List.pairwise_singleton _ _
  | cons m ms ih =>
      obtain ⟨k, w⟩ := m
      obtain ⟨hk, hms⟩ := List.pairwise_cons.mp h
      simp only [insertMember]
      split
      · rename_i heq
        subst heq
        exact List.pairwise_cons.mpr ⟨hk, hms⟩
      · rename_i hne
        split
        · rename_i hlt
          refine List.pairwise_cons.mpr ⟨fun m hm => ?_, h⟩
          rcases List.mem_cons.mp hm with rfl | hm
          · exact hlt
          · exact String.lt_trans hlt (hk m hm)
        · rename_i hge
          have hgt : k < key := Std.lt_of_le_of_ne (String.not_lt.mp hge) (Ne.symm hne)
          refine List.pairwise_cons.mpr ⟨fun m hm => ?_, ih hms⟩
          rcases mem_insertMember hm with rfl | hm
          · exact hgt
          · exact hk m hm

/-- Where a value comes from: `null` from its literal, the items of an array and the members of an
object from the readers of the next level. -/
theorem value_eq_ok {rounds levels : Nat} {s rest : List Char} {v : Json}
    (h : value rounds levels s = .ok (v, rest)) :
    (v = .null ∧ ∃ t, skipSpace s = 'n' :: t) ∨ (∃ b, v = .bool b) ∨ (∃ n, v = .number n) ∨
      (∃ s, v = .string s) ∨
      (∃ inside vs t rest', levels = inside + 1 ∧ v = .array vs ∧
        items (value rounds inside) rounds true t = .ok (vs, rest')) ∨
      ∃ inside ms t rest', levels = inside + 1 ∧ v = .object ms ∧
        members (value rounds inside) rounds true [] t = .ok (ms, rest') := by
  rw [value.eq_def] at h
  simp only at h
  split at h
  · cases h
  -- one branch for each character that a value can start with
  · rename_i c t hs
    split at h
    · rename_i hc
      obtain ⟨_, -, hv⟩ := map_eq_ok_iff.mp h
      cases hv
      exact .inl ⟨rfl, t, hc ▸ hs⟩
    split at h
    · obtain ⟨_, -, hv⟩ := map_eq_ok_iff.mp h
      cases hv
      exact .inr (.inl ⟨_, rfl⟩)
    split at h
    · obtain ⟨_, -, hv⟩ := map_eq_ok_iff.mp h
      cases hv
      exact .inr (.inl ⟨_, rfl⟩)
    split at h
    · obtain ⟨_, -, hv⟩ := map_eq_ok_iff.mp h
      cases hv
      exact .inr (.inr (.inl ⟨_, rfl⟩))
    split at h
    · obtain ⟨_, -, hv⟩ := map_eq_ok_iff.mp h
      cases hv
      exact .inr (.inr (.inl ⟨_, rfl⟩))
    split at h
    · obtain ⟨_, -, hv⟩ := map_eq_ok_iff.mp h
      cases hv
      exact .inr (.inr (.inr (.inl ⟨_, rfl⟩)))
    split at h
    · split at h
      · cases h
      · obtain ⟨⟨vs, rest'⟩, hclosed, hv⟩ := map_eq_ok_iff.mp h
        cases hv
        obtain ⟨rest'', hitems⟩ := closed_eq_ok hclosed
        exact .inr (.inr (.inr (.inr (.inl ⟨_, vs, _, rest'', rfl, rfl, hitems⟩))))
    split at h
    · split at h
      · cases h
      · obtain ⟨⟨ms, rest'⟩, hclosed, hv⟩ := map_eq_ok_iff.mp h
        cases hv
        obtain ⟨rest'', hmembers⟩ := closed_eq_ok hclosed
        exact .inr (.inr (.inr (.inr (.inr ⟨_, ms, _, rest'', rfl, rfl, hmembers⟩))))
    · cases h

/-- A value that was read has the shape of one. -/
theorem decoded_of_value {rounds levels : Nat} {s rest : List Char} {v : Json}
    (h : value rounds levels s = .ok (v, rest)) : Decoded levels v := by
  induction levels using Nat.strongRecOn generalizing s rest v with
  | _ levels ih =>
      rcases value_eq_ok h with ⟨rfl, -⟩ | ⟨b, rfl⟩ | ⟨n, rfl⟩ | ⟨t, rfl⟩ |
        ⟨inside, vs, t, rest', rfl, rfl, hitems⟩ | ⟨inside, ms, t, rest', rfl, rfl, hmembers⟩
      · exact .null
      · exact .bool b
      · exact .number n
      · exact .string t
      · refine .array fun v hv => ?_
        obtain ⟨t', rest'', hvalue⟩ := of_mem_items hitems hv
        exact ih inside (Nat.lt_succ_self inside) hvalue
      · rw [members_eq_byKey] at hmembers
        -- every member that comes in keeps the keys ascending and is read one level down
        have hshape : (ms.Pairwise fun a b => a.1 < b.1) ∧ ∀ m ∈ ms, Decoded inside m.2 := by
          refine of_byKey (P := fun ms => (ms.Pairwise fun a b => a.1 < b.1) ∧
            ∀ m ∈ ms, Decoded inside m.2) ?_ hmembers ⟨List.Pairwise.nil, by simp⟩
          intro ms key s ms' rest hstep hms
          obtain ⟨s', -, hstep⟩ := bind_eq_ok_iff.mp hstep
          obtain ⟨⟨v, rest'⟩, hvalue, hstep⟩ := bind_eq_ok_iff.mp hstep
          cases hstep
          refine ⟨pairwise_insertMember hms.1, fun m hm => ?_⟩
          rcases mem_insertMember hm with rfl | hm
          · exact ih inside (Nat.lt_succ_self inside) hvalue
          · exact hms.2 m hm
        exact .object hshape.1 hshape.2

/-- White space is skipped once. -/
theorem skipSpace_skipSpace (s : List Char) : skipSpace (skipSpace s) = skipSpace s :=
  List.dropWhile_idempotent _ _

/-- Where a value or `null` may stand, the value that is read is not `null`. -/
theorem of_optional_value {rounds levels : Nat} {s rest : List Char} {v : Json}
    (h : optional (value rounds levels) s = .ok (some v, rest)) : Decoded levels v ∧ v ≠ .null := by
  simp only [optional] at h
  split at h
  · obtain ⟨_, -, hv⟩ := map_eq_ok_iff.mp h
    cases hv
  · rename_i hs
    obtain ⟨⟨v', rest'⟩, hvalue, hv⟩ := map_eq_ok_iff.mp h
    cases hv
    refine ⟨decoded_of_value hvalue, ?_⟩
    rintro rfl
    rcases value_eq_ok hvalue with ⟨-, t, ht⟩ | ⟨b, hb⟩ | ⟨n, hn⟩ | ⟨t, ht⟩ |
      ⟨_, _, _, _, -, hv, -⟩ | ⟨_, _, _, _, -, hv, -⟩
    · rw [skipSpace_skipSpace] at ht
      exact hs t ht
    · cases hb
    · cases hn
    · cases ht
    · cases hv
    · cases hv

/-- Every item of a list was read one level further down. -/
theorem of_mem_list {α : Type} {rounds levels : Nat} {item : (levels : Nat) → Reader α}
    {s rest : List Char} {as : List α} (h : list rounds item (levels + 1) s = .ok (as, rest))
    {a : α} (ha : a ∈ as) : ∃ s rest, item levels s = .ok (a, rest) := by
  simp only [list] at h
  split at h
  · cases h
  · split at h
    · obtain ⟨rest', hitems⟩ := closed_eq_ok h
      exact of_mem_items hitems ha
    · cases h

end QuickFix.Json
