import Mathlib.Data.List.Forall2
import Mathlib.Data.List.TakeWhile
import QuickFix.Proofs.Json.Lexeme

/-!
# Reading what was written

A reader `Takes` a text for a value if it gives that value back behind any white space and before
anything that may follow. Containers are read item by item and member by member; `items_enclosed`
and `byKey_enclosed` say what becomes of the enclosed texts of a container, whatever reads the
single ones. So the readers of values and of records need to be looked at one item at a time.

`takes_ordered` is the result for values: one that is not nested too deep, and holds no double, is
read back up to the order of members (`ordered`). One that has the shape of a value that was read is
read back as it was (`takes_value`).
-/

set_option autoImplicit false

namespace QuickFix.Json

/-- A text that a reader takes for a value, behind white space and before what may follow. -/
structure Takes {α : Type} (reader : Reader α) (s : List Char) (a : α) : Prop where
  begins : ∃ c t, s = c :: t ∧ isSpace c = false ∧ c ≠ ']'
  reads : ∀ gap rest, Gap gap → Stops rest → reader (gap ++ (s ++ rest)) = .ok (a, rest)

/-! ## Items -/

/-- The text of a container behind its first item or member, and what follows the container. -/
def behind (inner outer : List Char) (closing : Char) (rest : List Char) :
    List (List Char) → List Char
  | [] => outer ++ closing :: rest
  | t :: ts => ',' :: (inner ++ (t ++ behind inner outer closing rest ts))

/-- The text of a container is its first item and what is `behind` it. -/
theorem enclosed_cons_append (inner outer : List Char) (closing : Char) (rest t : List Char)
    (ts : List (List Char)) : enclosed inner outer closing (t :: ts) ++ rest =
      inner ++ (t ++ behind inner outer closing rest ts) := by
  have htail : ts.flatMap (fun t => ',' :: inner ++ t) ++ outer ++ [closing] ++ rest =
      behind inner outer closing rest ts := by
    induction ts with
    | nil => simp [behind]
    | cons t ts ih =>
        rw [behind, ← ih]
        simp
  rw [← htail]
  simp [enclosed]

/-- A value may be followed by whatever stands behind an item or a member. -/
theorem stops_behind (inner : List Char) {outer : List Char} (houter : Gap outer) (closing : Char)
    (hclosing : closing ∈ [',', ']', '}']) (rest : List Char) (ts : List (List Char)) :
    Stops (behind inner outer closing rest ts) := by
  cases ts with
  | nil => exact houter.stops_append (stops_cons hclosing rest)
  | cons t ts => exact stops_cons (by decide) _

/-- Before the closing bracket there is no further item. -/
theorem nextItem_closing (first : Bool) {outer : List Char} (houter : Gap outer)
    (rest : List Char) : nextItem first (outer ++ ']' :: rest) = .ok (false, ']' :: rest) := by
  simp [nextItem, skipSpace_append houter (c := ']') rfl]

/-- Behind the opening bracket, the first item is met past the white space. -/
theorem Takes.nextItem_first {α : Type} {item : Reader α} {t : List Char} {a : α}
    (h : Takes item t a) {inner : List Char} (hinner : Gap inner) (more : List Char) :
    nextItem true (inner ++ (t ++ more)) = .ok (true, t ++ more) := by
  obtain ⟨c, t, rfl, hc, hne⟩ := h.begins
  simp [nextItem, skipSpace_append hinner hc, hne]

/-- Behind a comma, the next item is met past the white space. -/
theorem Takes.nextItem_comma {α : Type} {item : Reader α} {t : List Char} {a : α}
    (h : Takes item t a) {inner : List Char} (hinner : Gap inner) (more : List Char) :
    nextItem false (',' :: (inner ++ (t ++ more))) = .ok (true, t ++ more) := by
  obtain ⟨c, t, rfl, hc, hne⟩ := h.begins
  simp [nextItem, skipSpace_cons (c := ',') rfl, skipSpace_append hinner hc, hne]

/-- A text is also taken without white space in front of it. -/
theorem Takes.read {α : Type} {reader : Reader α} {s : List Char} {a : α} (h : Takes reader s a)
    {rest : List Char} (hrest : Stops rest) : reader (s ++ rest) = .ok (a, rest) :=
  h.reads [] rest Gap.nil hrest

section

variable {inner outer : List Char} (hinner : Gap inner) (houter : Gap outer) (rest : List Char)
include hinner houter

/-- The loop over items reads all those behind the first, given a round for each and one more. -/
theorem items_behind {α : Type} {item : Reader α} {ts : List (List Char)} {as : List α}
    (h : List.Forall₂ (Takes item) ts as) {n : Nat} (hn : ts.length < n) :
    items item n false (behind inner outer ']' rest ts) = .ok (as, ']' :: rest) := by
  induction h generalizing n with
  | nil =>
      cases n with
      | zero => cases hn
      | succ n =>
          rw [items, behind, nextItem_closing false houter]
          rfl
  | @cons t a ts as htake _ ih =>
      cases n with
      | zero => cases hn
      | succ n =>
          have hread := htake.read (stops_behind inner houter ']' (by decide) rest ts)
          rw [items, behind, htake.nextItem_comma hinner]
          simp only [bind, Except.bind, hread, ih (Nat.lt_of_succ_lt_succ hn)]

/-- The enclosed texts of an array are read one by one. -/
theorem items_enclosed {α : Type} {item : Reader α} {ts : List (List Char)} {as : List α}
    (h : List.Forall₂ (Takes item) ts as) {n : Nat} (hn : ts.length < n) :
    items item n true (enclosed inner outer ']' ts ++ rest) = .ok (as, ']' :: rest) := by
  cases n with
  | zero => cases hn
  | succ n =>
      cases h with
      | nil =>
          have hclosing := nextItem_closing true Gap.nil rest
          rw [List.nil_append] at hclosing
          rw [items, enclosed, List.singleton_append, hclosing]
          rfl
      | @cons t a ts as htake hts =>
          have hread := htake.read (stops_behind inner houter ']' (by decide) rest ts)
          rw [items, enclosed_cons_append, htake.nextItem_first hinner]
          simp only [bind, Except.bind, hread,
            items_behind hinner houter rest hts (Nat.lt_of_succ_lt_succ hn)]

end

/-! ## Members -/

/-- The loop over the members of an object: `step` takes a key and reads what follows it. -/
def byKey {σ : Type} (step : σ → String → Reader σ) :
    (rounds : Nat) → (first : Bool) → σ → Reader σ
  | 0, _, _, _ => .error (.here .endInObject [])
  | rounds + 1, first, d, s => do
    match ← nextKey first s with
    | (none, rest) => .ok (d, rest)
    | (some key, rest) =>
      let (d, rest) ← step d (String.ofList key) rest
      byKey step rounds false d rest

/-- How members fill a state, each with its key, a colon and the text of its value. -/
inductive Filled {σ ν : Type} (step : σ → String → Reader σ) (colon : List Char)
    (text : ν → List Char) : σ → List (String × ν) → σ → Prop
  | nil (d : σ) : Filled step colon text d [] d
  | cons {d d₁ d₂ : σ} {key : String} {v : ν} {ms : List (String × ν)} :
      (∀ rest, Stops rest → step d key (colon ++ (text v ++ rest)) = .ok (d₁, rest)) →
      Filled step colon text d₁ ms d₂ → Filled step colon text d ((key, v) :: ms) d₂

/-- Before the closing brace there is no further key. -/
theorem nextKey_closing (first : Bool) {outer : List Char} (houter : Gap outer)
    (rest : List Char) : nextKey first (outer ++ '}' :: rest) = .ok (none, '}' :: rest) := by
  simp [nextKey, skipSpace_append houter (c := '}') rfl]

/-- The text of a member is its quoted key, the colon and its value. -/
theorem memberText_append (colon : List Char) (key : String) (value more : List Char) :
    memberText colon key value ++ more =
      '"' :: (key.toList.flatMap escaped ++ '"' :: (colon ++ (value ++ more))) := by
  simp [memberText, writeString]

/-- Behind the opening brace, the key of the first member is read. -/
theorem nextKey_first {inner : List Char} (hinner : Gap inner) (colon : List Char) (key : String)
    (value more : List Char) : nextKey true (inner ++ (memberText colon key value ++ more)) =
      .ok (some key.toList, colon ++ (value ++ more)) := by
  rw [memberText_append]
  simp [nextKey, skipSpace_append hinner (c := '"') rfl, stringBody_flatMap_escaped, Except.map]

/-- Behind a comma, the key of the next member is read. -/
theorem nextKey_comma {inner : List Char} (hinner : Gap inner) (colon : List Char) (key : String)
    (value more : List Char) :
    nextKey false (',' :: (inner ++ (memberText colon key value ++ more))) =
      .ok (some key.toList, colon ++ (value ++ more)) := by
  rw [memberText_append]
  simp [nextKey, skipSpace_cons (c := ',') rfl, skipSpace_append hinner (c := '"') rfl,
    stringBody_flatMap_escaped, Except.map]

section

variable {inner outer : List Char} (hinner : Gap inner) (houter : Gap outer) (rest : List Char)
include hinner houter

variable {σ ν : Type} {step : σ → String → Reader σ} {colon : List Char} {text : ν → List Char}
  {d d' : σ} {ms : List (String × ν)}

/-- The loop over members reads all those behind the first, given a round for each and one more. -/
theorem byKey_behind (h : Filled step colon text d ms d') {n : Nat} (hn : ms.length < n) :
    byKey step n false d (behind inner outer '}' rest
      (ms.map fun m => memberText colon m.1 (text m.2))) = .ok (d', '}' :: rest) := by
  induction h generalizing n with
  | nil d =>
      cases n with
      | zero => cases hn
      | succ n =>
          rw [byKey, List.map_nil, behind, nextKey_closing false houter]
          rfl
  | @cons d d₁ d₂ key v ms hstep _ ih =>
      cases n with
      | zero => cases hn
      | succ n =>
          have hread := hstep _ (stops_behind inner houter '}' (by decide) rest
            (ms.map fun m => memberText colon m.1 (text m.2)))
          rw [byKey, List.map_cons, behind, nextKey_comma hinner]
          simp only [bind, Except.bind, String.ofList_toList, hread,
            ih (Nat.lt_of_succ_lt_succ hn)]

/-- The enclosed members of an object fill the state one by one. -/
theorem byKey_enclosed (h : Filled step colon text d ms d') {n : Nat} (hn : ms.length < n) :
    byKey step n true d (enclosed inner outer '}'
      (ms.map fun m => memberText colon m.1 (text m.2)) ++ rest) = .ok (d', '}' :: rest) := by
  cases n with
  | zero => cases hn
  | succ n =>
      cases h with
      | nil =>
          have hclosing := nextKey_closing true Gap.nil rest
          rw [List.nil_append] at hclosing
          rw [byKey, List.map_nil, enclosed, List.singleton_append, hclosing]
          rfl
      | @cons _ d₁ _ key v ms hstep hms =>
          have hread := hstep _ (stops_behind inner houter '}' (by decide) rest
            (ms.map fun m => memberText colon m.1 (text m.2)))
          rw [byKey, List.map_cons, enclosed_cons_append, nextKey_first hinner]
          simp only [bind, Except.bind, String.ofList_toList, hread,
            byKey_behind hinner houter rest hms (Nat.lt_of_succ_lt_succ hn)]

end

/-- What a member does to the members that were read. -/
def memberStep (item : Reader Json) (ms : List (String × Json)) (key : String) :
    Reader (List (String × Json)) := fun s => do
  let (v, rest) ← item (← skipColon s)
  .ok (insertMember key v ms, rest)

/-- Reading the members of an object is a loop over its keys. -/
theorem members_eq_byKey (item : Reader Json) (n : Nat) (first : Bool) (ms : List (String × Json))
    (s : List Char) : members item n first ms s = byKey (memberStep item) n first ms s := by
  induction n generalizing first ms s with
  | zero => rfl
  | succ n ih =>
      simp only [members, byKey, memberStep, bind, Except.bind, ih]
      cases nextKey first s with
      | error f => rfl
      | ok next =>
          obtain ⟨key, rest⟩ := next
          cases key with
          | none => rfl
          | some key =>
              simp only
              cases skipColon rest with
              | error f => rfl
              | ok rest =>
                  simp only
                  cases item rest <;> rfl

/-- A member whose key is above all others is put last. -/
theorem insertMember_concat {key : String} {v : Json} {ms : List (String × Json)}
    (h : ∀ m ∈ ms, m.1 < key) : insertMember key v ms = ms ++ [(key, v)] := by
  induction ms with
  | nil => rfl
  | cons m ms ih =>
      obtain ⟨k, w⟩ := m
      have hk : k < key := h _ List.mem_cons_self
      have hne : key ≠ k := by
        rintro rfl
        exact String.lt_irrefl _ hk
      rw [insertMember, if_neg hne, if_neg (String.lt_asymm hk),
        ih fun m hm => h m (List.mem_cons_of_mem _ hm), List.cons_append]

/-- The colon of a layout is skipped up to white space. -/
theorem Layout.Spaced.skipColon_append {l : Layout} (h : l.Spaced) :
    ∃ gap, Gap gap ∧ ∀ s, skipColon (l.colon ++ s) = .ok (gap ++ s) := by
  obtain ⟨gap, hcolon, hgap⟩ := h.exists_colon
  refine ⟨gap, hgap, fun s => ?_⟩
  simp [hcolon, skipColon, skipSpace_cons (c := ':') rfl]

/-- The members of an object, put in one after the other; `read` is what becomes of their values. -/
def collected (read : Json → Json) (acc ms : List (String × Json)) : List (String × Json) :=
  ms.foldl (fun acc m => insertMember m.1 (read m.2) acc) acc

/-- Members whose values are read are collected. -/
theorem filled_members {item : Reader Json} {l : Layout} (hl : l.Spaced)
    {text : Json → List Char} {read : Json → Json} {acc ms : List (String × Json)}
    (hms : ∀ m ∈ ms, Takes item (text m.2) (read m.2)) :
    Filled (memberStep item) l.colon text acc ms (collected read acc ms) := by
  induction ms generalizing acc with
  | nil => exact .nil acc
  | cons m ms ih =>
      obtain ⟨key, v⟩ := m
      obtain ⟨gap, hgap, hcolon⟩ := hl.skipColon_append
      refine .cons (fun rest hrest => ?_) (ih fun m hm => hms m (List.mem_cons_of_mem _ hm))
      have hread := (hms _ List.mem_cons_self).reads gap rest hgap hrest
      simp only [memberStep, hcolon, bind, Except.bind, hread]

/-- Members whose keys ascend stay as they are when they are collected. -/
theorem collected_of_pairwise {read : Json → Json} {acc ms : List (String × Json)}
    (hsorted : (acc ++ ms).Pairwise fun a b => a.1 < b.1) (hread : ∀ m ∈ ms, read m.2 = m.2) :
    collected read acc ms = acc ++ ms := by
  induction ms generalizing acc with
  | nil => exact (List.append_nil acc).symm
  | cons m ms ih =>
      obtain ⟨key, v⟩ := m
      have hassoc : acc ++ (key, v) :: ms = acc ++ [(key, v)] ++ ms := by simp
      have hlast : ∀ m ∈ acc, m.1 < key := fun m hm =>
        (List.pairwise_append.mp hsorted).2.2 m hm (key, v) List.mem_cons_self
      have hv : read v = v := hread (key, v) List.mem_cons_self
      rw [hassoc] at hsorted ⊢
      rw [← ih hsorted fun m hm => hread m (List.mem_cons_of_mem _ hm), collected, List.foldl_cons,
        hv, insertMember_concat hlast]
      rfl

/-! ## Closed containers -/

/-- A list is closed by its bracket. -/
theorem closed_listEnding {α : Type} (a : α) (rest : List Char) :
    closed listEnding (.ok (a, ']' :: rest)) = .ok (a, rest) := by
  simp [closed, listEnding, skipSpace_cons (c := ']') rfl]

/-- An object is closed by its brace. -/
theorem closed_objectEnding {α : Type} (a : α) (rest : List Char) :
    closed objectEnding (.ok (a, '}' :: rest)) = .ok (a, rest) := by
  simp [closed, objectEnding, skipSpace_cons (c := '}') rfl]

/-- A container has at least one character for each of its items. -/
theorem length_le_enclosed (inner outer : List Char) (closing : Char) (ts : List (List Char)) :
    ts.length ≤ (enclosed inner outer closing ts).length := by
  have htail : ∀ ts : List (List Char),
      ts.length ≤ (ts.flatMap fun t => ',' :: inner ++ t).length := by
    intro ts
    induction ts with
    | nil => exact Nat.le_refl _
    | cons t ts ih =>
        simp only [List.flatMap_cons, List.length_append, List.length_cons]
        omega
  cases ts with
  | nil => exact Nat.zero_le _
  | cons t ts =>
      have hts := htail ts
      simp only [enclosed, List.length_append, List.length_cons, List.length_nil]
      omega

/-- So as many rounds as a container has characters are enough for its items. -/
theorem length_lt_of_enclosed {inner outer : List Char} {opening closing : Char}
    {ts : List (List Char)} {rounds : Nat}
    (h : (opening :: enclosed inner outer closing ts).length ≤ rounds) : ts.length < rounds :=
  Nat.lt_of_le_of_lt (length_le_enclosed inner outer closing ts) h

/-- The items of a written array are read one by one up to its closing bracket. -/
theorem closed_items {α : Type} {item : Reader α} {l : Layout} (hl : l.Spaced) {depth : Nat}
    {vs : List Json} {as : List α}
    (h : List.Forall₂ (fun v a => Takes item (write l (depth + 1) v) a) vs as) {rounds : Nat}
    (hlength : (write l depth (.array vs)).length ≤ rounds) (rest : List Char) :
    closed listEnding (items item rounds true (enclosed (l.lineBreak (depth + 1))
      (l.lineBreak depth) ']' (vs.map (write l (depth + 1))) ++ rest)) = .ok (as, rest) := by
  have hitems : List.Forall₂ (Takes item) (vs.map (write l (depth + 1))) as :=
    List.forall₂_map_left_iff.mpr h
  rw [write_array] at hlength
  rw [items_enclosed (hl.gap_lineBreak _) (hl.gap_lineBreak _) rest hitems
    (length_lt_of_enclosed hlength), closed_listEnding]

/-- The text of an item stands inside the text of its container. -/
theorem infix_enclosed (inner outer : List Char) (closing : Char) {t : List Char}
    {ts : List (List Char)} (h : t ∈ ts) : t <:+: enclosed inner outer closing ts := by
  cases ts with
  | nil => cases h
  | cons t' ts =>
      rcases List.mem_cons.mp h with rfl | h
      · exact ⟨inner, ts.flatMap (fun t => ',' :: inner ++ t) ++ outer ++ [closing],
          by simp [enclosed]⟩
      · obtain ⟨before, after, rfl⟩ := List.append_of_mem h
        exact ⟨inner ++ t' ++ before.flatMap (fun t => ',' :: inner ++ t) ++ ',' :: inner,
          after.flatMap (fun t => ',' :: inner ++ t) ++ outer ++ [closing],
          by simp [enclosed, List.flatMap_append]⟩

/-- An item is written inside its array. -/
theorem write_infix_array (l : Layout) (depth : Nat) {v : Json} {vs : List Json} (h : v ∈ vs) :
    write l (depth + 1) v <:+: write l depth (.array vs) := by
  rw [write_array]
  exact (infix_enclosed _ _ _ (List.mem_map_of_mem h)).trans (List.suffix_cons _ _).isInfix

/-- A member is written inside its object. -/
theorem memberText_infix_object (l : Layout) (depth : Nat) {m : String × Json}
    {ms : List (String × Json)} (h : m ∈ ms) :
    memberText l.colon m.1 (write l (depth + 1) m.2) <:+: write l depth (.object ms) := by
  have hmember := List.mem_map_of_mem (f := fun m =>
    memberText l.colon m.1 (write l (depth + 1) m.2)) h
  rw [write_object]
  exact (infix_enclosed _ _ _ hmember).trans (List.suffix_cons _ _).isInfix

/-- The value of a member is written inside its object. -/
theorem write_infix_object (l : Layout) (depth : Nat) {m : String × Json}
    {ms : List (String × Json)} (h : m ∈ ms) :
    write l (depth + 1) m.2 <:+: write l depth (.object ms) :=
  (List.suffix_append _ _).isInfix.trans (memberText_infix_object l depth h)

/-- Rounds that are enough for an array are enough for its items. -/
theorem length_item_le {l : Layout} {depth rounds : Nat} {v : Json} {vs : List Json} (hv : v ∈ vs)
    (h : (write l depth (.array vs)).length ≤ rounds) :
    (write l (depth + 1) v).length ≤ rounds :=
  Nat.le_trans (write_infix_array l depth hv).length_le h

/-- Rounds that are enough for an object are enough for the values of its members. -/
theorem length_member_le {l : Layout} {depth rounds : Nat} {m : String × Json}
    {ms : List (String × Json)} (hm : m ∈ ms)
    (h : (write l depth (.object ms)).length ≤ rounds) :
    (write l (depth + 1) m.2).length ≤ rounds :=
  Nat.le_trans (write_infix_object l depth hm).length_le h

/-! ## Values -/

/-- A value without doubles. -/
inductive Whole : Json → Prop
  | null : Whole .null
  | bool (b : Bool) : Whole (.bool b)
  | natural (n : UInt64) : Whole (.number (.natural n))
  | negative (n : Fin 0x8000000000000000) : Whole (.number (.negative n))
  | string (s : String) : Whole (.string s)
  | array {vs : List Json} : (∀ v ∈ vs, Whole v) → Whole (.array vs)
  | object {ms : List (String × Json)} : (∀ m ∈ ms, Whole m.2) → Whole (.object ms)

/-- A value without doubles is no double. -/
theorem Whole.ne_float {v : Json} (h : Whole v) (x : Float) : v ≠ .number (.float x) := by
  rintro rfl
  cases h

/-- The shape of a value that was read: so many containers inside one another at most, and the keys
of objects ascending. -/
inductive Decoded : Nat → Json → Prop
  | null {levels : Nat} : Decoded levels .null
  | bool {levels : Nat} (b : Bool) : Decoded levels (.bool b)
  | number {levels : Nat} (n : Number) : Decoded levels (.number n)
  | string {levels : Nat} (s : String) : Decoded levels (.string s)
  | array {levels : Nat} {vs : List Json} :
      (∀ v ∈ vs, Decoded levels v) → Decoded (levels + 1) (.array vs)
  | object {levels : Nat} {ms : List (String × Json)} :
      (ms.Pairwise fun a b => a.1 < b.1) → (∀ m ∈ ms, Decoded levels m.2) →
      Decoded (levels + 1) (.object ms)

/-- A value that is read again once it is written: so many containers inside one another at most,
and no double. -/
inductive Legible : Nat → Json → Prop
  | null {levels : Nat} : Legible levels .null
  | bool {levels : Nat} (b : Bool) : Legible levels (.bool b)
  | natural {levels : Nat} (n : UInt64) : Legible levels (.number (.natural n))
  | negative {levels : Nat} (n : Fin 0x8000000000000000) : Legible levels (.number (.negative n))
  | string {levels : Nat} (s : String) : Legible levels (.string s)
  | array {levels : Nat} {vs : List Json} :
      (∀ v ∈ vs, Legible levels v) → Legible (levels + 1) (.array vs)
  | object {levels : Nat} {ms : List (String × Json)} :
      (∀ m ∈ ms, Legible levels m.2) → Legible (levels + 1) (.object ms)

/-- A value that was read is legible, unless it holds a double. -/
theorem Decoded.legible {levels : Nat} {v : Json} (hdecoded : Decoded levels v) (hwhole : Whole v) :
    Legible levels v := by
  induction hdecoded with
  | null => exact .null
  | bool b => exact .bool b
  | number n =>
      cases hwhole with
      | natural n => exact .natural n
      | negative n => exact .negative n
  | string s => exact .string s
  | array _ ih =>
      cases hwhole with
      | array hwhole => exact .array fun v hv => ih v hv (hwhole v hv)
  | object _ _ ih =>
      cases hwhole with
      | object hwhole => exact .object fun m hm => ih m hm (hwhole m hm)

mutual

/-- The value as it is read once it is written: the members of objects stand in ascending order of
their keys, and of equal keys the last one counts. -/
def ordered : Json → Json
  | .null => .null
  | .bool b => .bool b
  | .number n => .number n
  | .string s => .string s
  | .array vs => .array (orderedItems vs)
  | .object ms => .object (orderedMembers [] ms)

/-- The items of an array, each as it is read. -/
def orderedItems : List Json → List Json
  | [] => []
  | v :: vs => ordered v :: orderedItems vs

/-- Members as they are read behind those that were read before. -/
def orderedMembers (acc : List (String × Json)) : List (String × Json) → List (String × Json)
  | [] => acc
  | (k, v) :: ms => orderedMembers (insertMember k (ordered v) acc) ms

end

/-- The items of an array are read on their own. -/
theorem ordered_array (vs : List Json) : ordered (.array vs) = .array (vs.map ordered) := by
  have hitems : ∀ vs, orderedItems vs = vs.map ordered := by
    intro vs
    induction vs with
    | nil => rw [orderedItems, List.map_nil]
    | cons v vs ih => rw [orderedItems, ih, List.map_cons]
  rw [ordered, hitems]

/-- The members of an object are collected. -/
theorem ordered_object (ms : List (String × Json)) :
    ordered (.object ms) = .object (collected ordered [] ms) := by
  have hmembers : ∀ ms acc, orderedMembers acc ms = collected ordered acc ms := by
    intro ms
    induction ms with
    | nil =>
        intro acc
        rw [orderedMembers]
        rfl
    | cons m ms ih =>
        intro acc
        rw [orderedMembers, ih]
        rfl
  rw [ordered, hmembers]

/-- A value that was read has the order it is read in. -/
theorem Decoded.ordered_eq {levels : Nat} {v : Json} (h : Decoded levels v) : ordered v = v := by
  induction h with
  | null | bool | number | string => rw [ordered]
  | array _ ih => rw [ordered_array, List.map_congr_left ih, List.map_id']
  | @object _ ms hsorted _ ih =>
      have hcollected : collected ordered [] ms = [] ++ ms := collected_of_pairwise hsorted ih
      rw [ordered_object, hcollected, List.nil_append]

/-- A text taken for a value, by what the reader does with its first character. -/
theorem takes_of_cons {α : Type} {reader : Reader α} {c : Char} {t : List Char} {a : α}
    (hc : isSpace c = false) (hne : c ≠ ']')
    (h : ∀ s rest, Stops rest → skipSpace s = c :: (t ++ rest) → reader s = .ok (a, rest)) :
    Takes reader (c :: t) a := by
  refine ⟨⟨c, t, rfl, hc, hne⟩, fun gap rest hgap hrest => h _ rest hrest ?_⟩
  rw [List.cons_append, skipSpace_append hgap hc]

variable {rounds levels : Nat}

/-- A digit is none of the characters that are no digits. -/
theorem ne_of_isDigit {c d : Char} (hc : Numeral.isDigit c = true)
    (hd : Numeral.isDigit d = false) : c ≠ d := by
  rintro rfl
  rw [hc] at hd
  cases hd

/-- No digit is white space. -/
theorem isSpace_of_isDigit {c : Char} (h : Numeral.isDigit c = true) : isSpace c = false := by
  cases hspace : isSpace c with
  | false => rfl
  | true =>
      rcases (isSpace_iff c).mp hspace with rfl | rfl | rfl | rfl <;> revert h <;> decide

/-- The characters that open strings, arrays and objects are no digits. -/
theorem isDigit_opening : Numeral.isDigit '"' = false ∧ Numeral.isDigit '[' = false ∧
    Numeral.isDigit '{' = false := by
  decide

/-- The word `null` is taken for the null value. -/
theorem takes_value_null : Takes (value rounds levels) ['n', 'u', 'l', 'l'] .null := by
  refine takes_of_cons (by decide) (by decide) fun s rest _ hs => ?_
  rw [value.eq_def]
  simp [hs, literal, Except.map]

/-- A written truth value is taken for itself. -/
theorem takes_value_bool (l : Layout) (depth : Nat) (b : Bool) :
    Takes (value rounds levels) (write l depth (.bool b)) (.bool b) := by
  cases b with
  | true =>
      rw [write]
      refine takes_of_cons (by decide) (by decide) fun s rest _ hs => ?_
      rw [value.eq_def]
      simp [hs, literal, Except.map]
  | false =>
      rw [write]
      refine takes_of_cons (by decide) (by decide) fun s rest _ hs => ?_
      rw [value.eq_def]
      simp [hs, literal, Except.map]

/-- A written string is taken for itself. -/
theorem takes_value_string (s : String) :
    Takes (value rounds levels) (writeString s) (.string s) := by
  refine takes_of_cons (by decide) (by decide) fun s' rest _ hs => ?_
  rw [value.eq_def]
  simp [hs, isDigit_opening, stringBody_flatMap_escaped, Except.map]

/-- A natural number taken by what the reader does with a text that begins with a digit. -/
theorem takes_natural {α : Type} {reader : Reader α} {n : UInt64} {a : α}
    (h : ∀ c t s rest, Numeral.isDigit c = true → skipSpace s = c :: t →
      numberBody false (c :: t) = .ok (.natural n, rest) → reader s = .ok (a, rest)) :
    Takes reader (Number.natural n).write a := by
  obtain ⟨c, ds, hds⟩ := List.exists_cons_of_ne_nil (Numeral.digits_ne_nil n.toNat)
  have hdigit : Numeral.isDigit c = true :=
    Numeral.isDigit_of_mem_digits (hds ▸ List.mem_cons_self)
  rw [Number.write, hds]
  refine takes_of_cons (isSpace_of_isDigit hdigit) (ne_of_isDigit hdigit (by decide))
    fun s rest hrest hs => h c _ s rest hdigit hs ?_
  have hnumber := numberBody_digits n.toNat_lt false hrest
  rwa [hds, List.cons_append, wholeNumber_toNat] at hnumber

/-- A written natural number is taken for itself. -/
theorem takes_value_natural (n : UInt64) :
    Takes (value rounds levels) (Number.natural n).write (.number (.natural n)) := by
  refine takes_natural fun c t s rest hdigit hs hnumber => ?_
  rw [value.eq_def]
  simp [hs, hdigit, ne_of_isDigit hdigit (d := 'n') (by decide),
    ne_of_isDigit hdigit (d := 't') (by decide), ne_of_isDigit hdigit (d := 'f') (by decide),
    ne_of_isDigit hdigit (d := '-') (by decide), hnumber, Except.map]

/-- A written negative number is taken for itself. -/
theorem takes_value_negative (n : Fin 0x8000000000000000) :
    Takes (value rounds levels) (Number.negative n).write (.number (.negative n)) := by
  refine takes_of_cons (by decide) (by decide) fun s rest hrest hs => ?_
  rw [value.eq_def]
  simp [hs, numberBody_digits (n := n.val + 1) (by omega) true hrest, wholeNumber_succ, Except.map]

/-- A written array is read if its items are. -/
theorem takes_value_array {l : Layout} (hl : l.Spaced) {depth : Nat} {vs ws : List Json}
    (hvs : List.Forall₂ (fun v w => Takes (value rounds levels) (write l (depth + 1) v) w) vs ws)
    (hlength : (write l depth (.array vs)).length ≤ rounds) :
    Takes (value rounds (levels + 1)) (write l depth (.array vs)) (.array ws) := by
  have hclosed := closed_items hl hvs hlength
  rw [write_array]
  refine takes_of_cons (by decide) (by decide) fun s rest _ hs => ?_
  rw [value.eq_def]
  simp [hs, isDigit_opening, hclosed, Except.map]

/-- A written object is read if the values of its members are. -/
theorem takes_value_object {l : Layout} (hl : l.Spaced) {depth : Nat} {ms : List (String × Json)}
    {read : Json → Json}
    (hms : ∀ m ∈ ms, Takes (value rounds levels) (write l (depth + 1) m.2) (read m.2))
    (hlength : (write l depth (.object ms)).length ≤ rounds) :
    Takes (value rounds (levels + 1)) (write l depth (.object ms))
      (.object (collected read [] ms)) := by
  rw [write_object] at hlength ⊢
  refine takes_of_cons (by decide) (by decide) fun s rest _ hs => ?_
  have hfilled : Filled (memberStep (value rounds levels)) l.colon (write l (depth + 1)) [] ms
      (collected read [] ms) := filled_members hl hms
  have hrounds : ms.length < rounds := by
    simpa only [List.length_map] using length_lt_of_enclosed hlength
  rw [value.eq_def]
  simp [hs, isDigit_opening, members_eq_byKey,
    byKey_enclosed (hl.gap_lineBreak _) (hl.gap_lineBreak _) rest hfilled hrounds,
    closed_objectEnding, Except.map]

/-- A legible value is read as it was written, up to the order of members. -/
theorem takes_ordered {l : Layout} (hl : l.Spaced) {depth : Nat} {v : Json}
    (h : Legible levels v) (hlength : (write l depth v).length ≤ rounds) :
    Takes (value rounds levels) (write l depth v) (ordered v) := by
  -- on the shape of the value, at every depth, as what is in a container is written deeper
  induction h generalizing depth with
  | null =>
      rw [write, ordered]
      exact takes_value_null
  | bool b =>
      rw [ordered]
      exact takes_value_bool l depth b
  | natural n =>
      rw [write, ordered]
      exact takes_value_natural n
  | negative n =>
      rw [write, ordered]
      exact takes_value_negative n
  | string s =>
      rw [write, ordered]
      exact takes_value_string s
  | array _ ih =>
      rw [ordered_array]
      refine takes_value_array hl ?_ hlength
      exact List.forall₂_map_right_iff.mpr
        (List.forall₂_same.mpr fun v hv => ih v hv (length_item_le hv hlength))
  | object _ ih =>
      rw [ordered_object]
      exact takes_value_object hl (fun m hm => ih m hm (length_member_le hm hlength)) hlength

/-- A value of the shape that is read, and without doubles, is read as it was written. -/
theorem takes_value {l : Layout} (hl : l.Spaced) {depth : Nat} {v : Json}
    (hdecoded : Decoded levels v) (hwhole : Whole v)
    (hlength : (write l depth v).length ≤ rounds) :
    Takes (value rounds levels) (write l depth v) v := by
  have htakes := takes_ordered hl (hdecoded.legible hwhole) hlength
  rwa [hdecoded.ordered_eq] at htakes

/-- **Whole texts.** A legible value that is written with white space behind it is the value of the
text, up to the order of members. -/
theorem parse_write {l : Layout} (hl : l.Spaced) {v : Json} (h : Legible deepest v)
    {gap : List Char} (hgap : Gap gap) : parse (write l 0 v ++ gap) = .ok (ordered v) := by
  have hlength : (write l 0 v).length ≤ (write l 0 v ++ gap).length :=
    (List.prefix_append _ _).length_le
  have hstops : Stops gap := by
    have hstops := hgap.stops_append Stops.nil
    rwa [List.append_nil] at hstops
  have hend : skipSpace gap = [] := List.dropWhile_eq_nil_iff.mpr hgap
  have hread := (takes_ordered hl h hlength).read hstops
  rw [parse, document, hread]
  simp only [bind, Except.bind, hend]

end QuickFix.Json
