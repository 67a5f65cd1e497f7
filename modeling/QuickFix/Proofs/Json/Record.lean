import QuickFix.Json.Record
import QuickFix.Proofs.Json.Decoded

/-!
# Reading records

A record is made from a draft that its fields have filled in one after the other, in whichever form
it was written; so what the reading of each field keeps, the draft has at the end
(`Record.exists_draft_of_read`).

The other direction is about records that were written as objects: if each member fills in its
field, the record is read from the draft they leave (`Record.takes_write`). The readers of the plain
types come before it, with the texts they take.
-/

set_option autoImplicit false

namespace QuickFix.Json

/-! ## Drafts -/

/-- What a member does to the draft of a record. -/
def fieldStep {δ : Type} (rounds : Nat) (fields : List (Field δ)) (levels : Nat) (d : δ)
    (name : String) : Reader δ := fun s =>
  match fields.find? fun f => f.name == name with
  | none => do
    let rest ← skipValue rounds (← skipColon s)
    .ok (d, rest)
  | some f =>
    if f.isSet d then .error (.loose (.duplicateField name) s)
    else do f.fill levels d (← skipColon s)

/-- Filling a draft by the names of its fields is a loop over keys. -/
theorem fillByName_eq_byKey {δ : Type} (rounds : Nat) (fields : List (Field δ)) (levels n : Nat)
    (first : Bool) (d : δ) (s : List Char) :
    fillByName rounds fields levels n first d s =
      byKey (fieldStep rounds fields levels) n first d s := by
  induction n generalizing first d s with
  | zero => rfl
  | succ n ih =>
      simp only [fillByName, byKey, fieldStep, bind, Except.bind, ih]
      cases nextKey first s with
      | error f => rfl
      | ok next =>
          obtain ⟨key, rest⟩ := next
          cases key with
          | none => rfl
          | some key =>
              simp only
              cases fields.find? fun f => f.name == String.ofList key with
              | none =>
                  simp only
                  cases skipColon rest with
                  | error f => rfl
                  | ok rest =>
                      simp only
                      cases skipValue rounds rest <;> rfl
              | some f =>
                  simp only
                  split
                  · rfl
                  · cases skipColon rest with
                    | error f => rfl
                    | ok rest => simp only

/-- What every field preserves holds of a draft that was filled in order. -/
theorem of_fillInOrder {δ : Type} {P : δ → Prop} {wantedLength : String} {levels : Nat}
    {fields : List (Field δ)}
    (hfill : ∀ f ∈ fields, ∀ d s d' rest, f.fill levels d s = .ok (d', rest) → P d → P d')
    {read : Nat} {d d' : δ} {s rest : List Char}
    (h : fillInOrder wantedLength levels fields read d s = .ok (d', rest)) (hd : P d) : P d' := by
  induction fields generalizing read d s with
  | nil =>
      cases h
      exact hd
  | cons f fields ih =>
      obtain ⟨⟨goesOn, s'⟩, -, h⟩ := bind_eq_ok_iff.mp h
      cases goesOn with
      | false =>
          simp only at h
          split at h
          · cases h
            exact hd
          · cases h
      | true =>
          obtain ⟨⟨d₁, s''⟩, hread, h⟩ := bind_eq_ok_iff.mp h
          exact ih (fun f hf => hfill f (List.mem_cons_of_mem _ hf)) h
            (hfill f List.mem_cons_self d s' d₁ s'' hread hd)

/-- A record comes from a draft that has what each of its fields keeps. -/
theorem Record.exists_draft_of_read {δ α : Type} {r : Record δ α} {rounds levels : Nat}
    {P : δ → Prop} (hempty : P r.empty)
    (hfill : ∀ f ∈ r.fields, ∀ d s d' rest, f.fill levels d s = .ok (d', rest) → P d → P d')
    {s rest : List Char} {a : α} (h : r.read rounds (levels + 1) s = .ok (a, rest)) :
    ∃ d, P d ∧ r.finish d = .ok a := by
  have hfinished : ∀ read rest', r.finished read = .ok (a, rest') →
      (∀ d rest, read = .ok (d, rest) → P d) → ∃ d, P d ∧ r.finish d = .ok a := by
    intro read rest' hread hP
    obtain ⟨⟨d, rest''⟩, hd, hfinish⟩ := bind_eq_ok_iff.mp hread
    refine ⟨d, hP d rest'' hd, ?_⟩
    simp only at hfinish
    split at hfinish
    · rename_i heq
      cases hfinish
      exact heq
    · cases hfinish
  -- a record is read from the list of its fields or from an object
  simp only [read] at h
  split at h
  · cases h
  · split at h
    · obtain ⟨rest', hread⟩ := closed_eq_ok h
      exact hfinished _ rest' hread fun d rest hd => of_fillInOrder hfill hd hempty
    · split at h
      · obtain ⟨rest', hread⟩ := closed_eq_ok h
        refine hfinished _ rest' hread fun d rest hd => ?_
        rw [fillByName_eq_byKey] at hd
        refine of_byKey (fun d name s d' rest hstep hd => ?_) hd hempty
        simp only [fieldStep] at hstep
        split at hstep
        -- a member that is no field is skipped
        · obtain ⟨_, -, hstep⟩ := bind_eq_ok_iff.mp hstep
          obtain ⟨_, -, hstep⟩ := bind_eq_ok_iff.mp hstep
          cases hstep
          exact hd
        · rename_i f hfind
          split at hstep
          · cases hstep
          · obtain ⟨_, -, hstep⟩ := bind_eq_ok_iff.mp hstep
            exact hfill f (List.mem_of_find?_eq_some hfind) _ _ _ _ hstep hd
      · cases h

/-- A field preserves what the values it reads preserve when they are set. -/
theorem Field.fill_of_eq_ok {δ β : Type} {name : String} {get : δ → Option β} {set : δ → β → δ}
    {reader : (levels : Nat) → Reader β} {mayLack : Bool} {levels : Nat} {P : δ → Prop}
    (hset : ∀ d b s rest, reader levels s = .ok (b, rest) → P d → P (set d b))
    (d : δ) (s : List Char) (d' : δ) (rest : List Char)
    (h : (Field.of name get set reader mayLack).fill levels d s = .ok (d', rest)) (hd : P d) :
    P d' := by
  obtain ⟨⟨b, rest'⟩, hread, heq⟩ := map_eq_ok_iff.mp h
  cases heq
  exact hset d b s rest' hread hd

/-! ## Plain types -/

/-- A written string is taken for its text. -/
theorem takes_text (s : String) : Takes text (writeString s) s := by
  refine takes_of_cons (by decide) (by decide) fun s' rest _ hs => ?_
  simp [text, stringFor, hs, stringBody_flatMap_escaped, Except.map]

/-- A written natural number is taken for what it fits in. -/
theorem takes_whole_natural {α : Type} {wanted : String} {fit? : Int → Option α} {n : UInt64}
    {a : α} (h : fit? n.toNat = some a) :
    Takes (whole wanted fit?) (Number.natural n).write a := by
  refine takes_natural fun c t s rest hdigit hs hnumber => ?_
  simp [whole, hs, hdigit, ne_of_isDigit hdigit (d := '-') (by decide), hnumber, h, bind,
    Except.bind]

/-- A written negative number is taken for what it fits in. -/
theorem takes_whole_negative {α : Type} {wanted : String} {fit? : Int → Option α}
    {n : Fin 0x8000000000000000} {a : α} (h : fit? (Int.negSucc n.val) = some a) :
    Takes (whole wanted fit?) (Number.negative n).write a := by
  refine takes_of_cons (by decide) (by decide) fun s rest hrest hs => ?_
  have hnumber := numberBody_digits (n := n.val + 1) (by omega) true hrest
  rw [wholeNumber_succ] at hnumber
  simp [whole, hs, hnumber, h, bind, Except.bind]

/-- A written word of 32 bits is taken for itself. -/
theorem takes_word32 (l : Layout) (depth : Nat) (n : UInt32) :
    Takes word32 (write l depth (.ofNat n.toNat)) n := by
  have hn : n.toNat < 0x100000000 := n.toNat_lt
  have htoNat : (UInt64.ofNat n.toNat).toNat = n.toNat := by
    rw [UInt64.toNat_ofNat']
    omega
  rw [ofNat, write]
  apply takes_whole_natural
  rw [htoNat]
  simp [hn]

/-- A 32-bit number as a value: which of the two forms it has, with the same number in it. -/
theorem ofInt_toInt (n : Int32) :
    (∃ m : UInt64, ofInt n.toInt = .number (.natural m) ∧ (m.toNat : Int) = n.toInt) ∨
      ∃ m : Fin 0x8000000000000000, ofInt n.toInt = .number (.negative m) ∧
        Int.negSucc m.val = n.toInt := by
  have hlow : -0x80000000 ≤ n.toInt := n.le_toInt
  have hhigh : n.toInt < 0x80000000 := n.toInt_lt
  cases hn : n.toInt with
  | ofNat m =>
      rw [hn] at hhigh
      have hm : (m : Int) < 0x80000000 := hhigh
      have htoNat : (UInt64.ofNat m).toNat = m := by
        rw [UInt64.toNat_ofNat']
        omega
      exact .inl ⟨UInt64.ofNat m, rfl, congrArg Int.ofNat htoNat⟩
  | negSucc m =>
      rw [hn] at hlow
      have hval : (Fin.ofNat 0x8000000000000000 m).val = m := by
        rw [Fin.val_ofNat]
        omega
      exact .inr ⟨Fin.ofNat 0x8000000000000000 m, rfl, congrArg Int.negSucc hval⟩

/-- A written signed number of 32 bits is taken for itself. -/
theorem takes_int32 (l : Layout) (depth : Nat) (n : Int32) :
    Takes int32 (write l depth (.ofInt n.toInt)) n := by
  have hlow : -0x80000000 ≤ n.toInt := n.le_toInt
  have hhigh : n.toInt < 0x80000000 := n.toInt_lt
  rcases ofInt_toInt n with ⟨m, hm, hvalue⟩ | ⟨m, hm, hvalue⟩
  · rw [hm, write]
    apply takes_whole_natural
    rw [hvalue]
    simp [hlow, hhigh]
  · rw [hm, write]
    apply takes_whole_negative
    rw [hvalue]
    simp [hlow, hhigh]

/-- An optional value that is there is taken for itself, unless its text looks like `null`. -/
theorem Takes.optional {α : Type} {reader : Reader α} {s : List Char} {a : α}
    (h : Takes reader s a) (hnull : ∀ t, s ≠ 'n' :: t) :
    Takes (Json.optional reader) s (some a) := by
  obtain ⟨c, t, rfl, hc, hne⟩ := h.begins
  refine takes_of_cons hc hne fun s rest hrest hs => ?_
  have hread := h.read hrest
  have hc' : c ≠ 'n' := by
    rintro rfl
    exact hnull t rfl
  rw [List.cons_append] at hread
  simp [Json.optional, hs, hc', hread, Except.map]

/-- A written list is taken for its items when each of these is. -/
theorem takes_list {α : Type} {rounds levels : Nat} {item : (levels : Nat) → Reader α} {l : Layout}
    (hl : l.Spaced) {depth : Nat} {encode : α → Json} {as : List α}
    (h : ∀ a ∈ as, Takes (item levels) (write l (depth + 1) (encode a)) a)
    (hlength : (write l depth (.array (as.map encode))).length ≤ rounds) :
    Takes (list rounds item (levels + 1)) (write l depth (.array (as.map encode))) as := by
  have hitems : List.Forall₂ (fun v a => Takes (item levels) (write l (depth + 1) v) a)
      (as.map encode) as :=
    List.forall₂_map_left_iff.mpr (List.forall₂_same.mpr h)
  have hclosed := closed_items hl hitems hlength
  rw [write_array]
  refine takes_of_cons (by decide) (by decide) fun s rest _ hs => ?_
  simp only [list, hs, hclosed, if_true]

/-! ## Written records -/

/-- Members fill a draft in two steps when the first of them fill it halfway. -/
theorem Filled.append {σ ν : Type} {step : σ → String → Reader σ} {colon : List Char}
    {text : ν → List Char} {d d₁ d₂ : σ} {ms ms' : List (String × ν)}
    (h : Filled step colon text d ms d₁) (h' : Filled step colon text d₁ ms' d₂) :
    Filled step colon text d (ms ++ ms') d₂ := by
  induction h with
  | nil => exact h'
  | cons hstep _ ih => exact .cons hstep (ih h')

variable {δ ν : Type} {rounds levels : Nat} {fields : List (Field δ)} {l : Layout}

/-- A member fills in its field, if the text of its value is taken by the field's reader. -/
theorem filled_field (hl : l.Spaced) {text : ν → List Char} {β : Type} {name : String}
    {get : δ → Option β} {set : δ → β → δ} {reader : (levels : Nat) → Reader β} {mayLack : Bool}
    (hfind : (fields.find? fun f => f.name == name) = some (.of name get set reader mayLack))
    {d d' : δ} {v : ν} {b : β} (h : Takes (reader levels) (text v) b) (hunset : get d = none)
    (hset : set d b = d') :
    Filled (fieldStep rounds fields levels) l.colon text d [(name, v)] d' := by
  refine .cons (fun rest hrest => ?_) (.nil _)
  obtain ⟨gap, hgap, hcolon⟩ := hl.skipColon_append
  have hread := h.reads gap rest hgap hrest
  simp [fieldStep, hfind, Field.of, hunset, hcolon, hread, hset, bind, Except.bind, Except.map]

/-- A record is read from the enclosed texts of members that fill in a complete draft. -/
theorem Record.takes_enclosed {α : Type} {r : Record δ α} {inner outer colon : List Char}
    (hinner : Gap inner) (houter : Gap outer) {text : ν → List Char} {ms : List (String × ν)}
    {d : δ} {a : α} (hfilled : Filled (fieldStep rounds r.fields levels) colon text r.empty ms d)
    (hfinish : r.finish d = .ok a)
    (hlength : ('{' :: enclosed inner outer '}'
      (ms.map fun m => memberText colon m.1 (text m.2))).length ≤ rounds) :
    Takes (r.read rounds (levels + 1)) ('{' :: enclosed inner outer '}'
      (ms.map fun m => memberText colon m.1 (text m.2))) a := by
  refine takes_of_cons (by decide) (by decide) fun s rest _ hs => ?_
  have hrounds : ms.length < rounds := by
    simpa only [List.length_map] using length_lt_of_enclosed hlength
  simp [Record.read, hs, fillByName_eq_byKey, Record.finished,
    byKey_enclosed hinner houter rest hfilled hrounds, hfinish, closed_objectEnding, bind,
    Except.bind]

/-- A written object is taken for a record when its members fill the record's draft. -/
theorem Record.takes_write {α : Type} {r : Record δ α} (hl : l.Spaced) {depth : Nat}
    {ms : List (String × Json)} {d : δ} {a : α}
    (hfilled : Filled (fieldStep rounds r.fields levels) l.colon (write l (depth + 1)) r.empty ms d)
    (hfinish : r.finish d = .ok a) (hlength : (write l depth (.object ms)).length ≤ rounds) :
    Takes (r.read rounds (levels + 1)) (write l depth (.object ms)) a := by
  rw [write_object] at hlength ⊢
  exact Record.takes_enclosed (hl.gap_lineBreak _) (hl.gap_lineBreak _) hfilled hfinish hlength

/-- A record of two fields that are always there. -/
theorem Record.takes_write_two {α : Type} {r : Record δ α} (hl : l.Spaced) {depth : Nat}
    {β β' : Type} {name name' : String} {get : δ → Option β} {get' : δ → Option β'}
    {set : δ → β → δ} {set' : δ → β' → δ} {reader : (levels : Nat) → Reader β}
    {reader' : (levels : Nat) → Reader β'} {mayLack mayLack' : Bool}
    (hfind : (r.fields.find? fun f => f.name == name) = some (.of name get set reader mayLack))
    (hfind' : (r.fields.find? fun f => f.name == name') =
      some (.of name' get' set' reader' mayLack'))
    {v v' : Json} {b : β} {b' : β'} {a : α}
    (h : Takes (reader levels) (write l (depth + 1) v) b)
    (h' : Takes (reader' levels) (write l (depth + 1) v') b') (hunset : get r.empty = none)
    (hunset' : get' (set r.empty b) = none) (hfinish : r.finish (set' (set r.empty b) b') = .ok a)
    (hlength : (write l depth (.object [(name, v), (name', v')])).length ≤ rounds) :
    Takes (r.read rounds (levels + 1)) (write l depth (.object [(name, v), (name', v')])) a :=
  Record.takes_write hl
    ((filled_field hl hfind h hunset rfl).append (filled_field hl hfind' h' hunset' rfl)) hfinish
    hlength

end QuickFix.Json
