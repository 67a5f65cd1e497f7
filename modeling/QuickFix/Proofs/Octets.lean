import Mathlib.Data.List.Basic
import QuickFix.Text.Octets

/-!
# Reading UTF-8

The octets of a text are the octets of its characters, one behind the other. This file says that
octets are read as a whole text exactly if they are the octets of that text
(`whole?_characters_eq_some_iff`), so octets that no text has are refused.

The reader takes one octet at a time. `Spelled` collects what it takes for one character;
`Spelled.eq_utf8EncodeChar` and `spelled_utf8EncodeChar` are the arithmetic: these are the octets
that write the character.
-/

set_option autoImplicit false

namespace QuickFix.Text

/-- The octets of a text. -/
def octets (s : List Char) : List UInt8 :=
  s.flatMap String.utf8EncodeChar

/-! ## The octets of one character -/

/-- The octets that complete a character under way. -/
inductive Begun.Completes : Begun → List UInt8 → Char → Prop
  | last {begun : Begun} {b : UInt8} {c : Char} : begun.feed b = .done c → Completes begun [b] c
  | more {begun begun' : Begun} {b : UInt8} {bs : List UInt8} {c : Char} :
      begun.feed b = .more begun' → Completes begun' bs c → Completes begun (b :: bs) c

/-- The octets that are taken for a character. -/
inductive Spelled : List UInt8 → Char → Prop
  | single {b : UInt8} {c : Char} : feedFirst b = .done c → Spelled [b] c
  | several {b : UInt8} {begun : Begun} {bs : List UInt8} {c : Char} :
      feedFirst b = .more begun → begun.Completes bs c → Spelled (b :: bs) c

/-- The last octet owed completes the character when it is in its bounds. -/
theorem Begun.feed_last (bits least greatest : Nat) (b : UInt8) :
    (⟨bits, 1, least, greatest⟩ : Begun).feed b =
      if least ≤ b.toNat ∧ b.toNat ≤ greatest then .done (Char.ofNat (bits * 64 + (b.toNat - 0x80)))
      else .refused := by
  simp [Begun.feed]

/-- An octet in its bounds brings six bits while more octets are owed. -/
theorem Begun.feed_more (bits owed least greatest : Nat) (b : UInt8) :
    (⟨bits, owed + 2, least, greatest⟩ : Begun).feed b =
      if least ≤ b.toNat ∧ b.toNat ≤ greatest then
        .more ⟨bits * 64 + (b.toNat - 0x80), owed + 1, 0x80, 0xBF⟩
      else .refused := by
  simp [Begun.feed]

/-- With one octet owed, a character is completed by one octet in its bounds. -/
theorem Begun.completes_last_iff (bits least greatest : Nat) (bs : List UInt8) (c : Char) :
    (⟨bits, 1, least, greatest⟩ : Begun).Completes bs c ↔
      ∃ b, bs = [b] ∧ least ≤ b.toNat ∧ b.toNat ≤ greatest ∧
        Char.ofNat (bits * 64 + (b.toNat - 0x80)) = c := by
  constructor
  · rintro (hfeed | ⟨hfeed, -⟩)
    · rw [feed_last] at hfeed
      split at hfeed
      · rename_i hbounds
        exact ⟨_, rfl, hbounds.1, hbounds.2, Fed.done.inj hfeed⟩
      · cases hfeed
    · rw [feed_last] at hfeed
      split at hfeed <;> cases hfeed
  · rintro ⟨b, rfl, hleast, hgreatest, hc⟩
    refine .last ?_
    rw [feed_last, if_pos ⟨hleast, hgreatest⟩, hc]

/-- With more octets owed, a character is completed by one in its bounds and what completes it from
there. -/
theorem Begun.completes_more_iff (bits owed least greatest : Nat) (bs : List UInt8) (c : Char) :
    (⟨bits, owed + 2, least, greatest⟩ : Begun).Completes bs c ↔
      ∃ b bs', bs = b :: bs' ∧ least ≤ b.toNat ∧ b.toNat ≤ greatest ∧
        (⟨bits * 64 + (b.toNat - 0x80), owed + 1, 0x80, 0xBF⟩ : Begun).Completes bs' c := by
  constructor
  · rintro (hfeed | ⟨hfeed, hbs⟩)
    · rw [feed_more] at hfeed
      split at hfeed <;> cases hfeed
    · rw [feed_more] at hfeed
      split at hfeed
      · rename_i hbounds
        rw [← Fed.more.inj hfeed] at hbs
        exact ⟨_, _, rfl, hbounds.1, hbounds.2, hbs⟩
      · cases hfeed
  · rintro ⟨b, bs', rfl, hleast, hgreatest, hbs⟩
    refine .more ?_ hbs
    rw [feed_more, if_pos ⟨hleast, hgreatest⟩]

/-- A first octet is a character of its own exactly when it is ASCII. -/
theorem feedFirst_eq_done_iff (b : UInt8) (c : Char) :
    feedFirst b = .done c ↔ b.toNat ≤ 0x7F ∧ Char.ofNat b.toNat = c := by
  simp only [feedFirst]
  by_cases hone : b.toNat ≤ 0x7F
  · rw [if_pos hone, Fed.done.injEq]
    exact ⟨fun h => ⟨hone, h⟩, fun h => h.2⟩
  · rw [if_neg hone]
    constructor
    · intro h
      split at h
      · cases h
      · split at h
        · cases h
        · split at h <;> cases h
    · exact fun h => absurd h.1 hone

/-- What the first octet of several says: how many follow, and the bounds of the next one. -/
theorem feedFirst_eq_more_iff (b : UInt8) (begun : Begun) :
    feedFirst b = .more begun ↔
      (0xC2 ≤ b.toNat ∧ b.toNat ≤ 0xDF ∧ begun = ⟨b.toNat - 0xC0, 1, 0x80, 0xBF⟩) ∨
      (0xE0 ≤ b.toNat ∧ b.toNat ≤ 0xEF ∧ begun = ⟨b.toNat - 0xE0, 2,
        if b.toNat = 0xE0 then 0xA0 else 0x80, if b.toNat = 0xED then 0x9F else 0xBF⟩) ∨
      (0xF0 ≤ b.toNat ∧ b.toNat ≤ 0xF4 ∧ begun = ⟨b.toNat - 0xF0, 3,
        if b.toNat = 0xF0 then 0x90 else 0x80, if b.toNat = 0xF4 then 0x8F else 0xBF⟩) := by
  simp only [feedFirst, Bool.and_eq_true, decide_eq_true_eq]
  constructor
  · intro h
    split at h
    · cases h
    · split at h
      · rename_i hb
        exact .inl ⟨hb.1, hb.2, (Fed.more.inj h).symm⟩
      · split at h
        · rename_i hb
          exact .inr (.inl ⟨hb.1, hb.2, (Fed.more.inj h).symm⟩)
        · split at h
          · rename_i hb
            exact .inr (.inr ⟨hb.1, hb.2, (Fed.more.inj h).symm⟩)
          · cases h
  · rintro (⟨hlow, hhigh, rfl⟩ | ⟨hlow, hhigh, rfl⟩ | ⟨hlow, hhigh, rfl⟩)
    · rw [if_neg (by omega), if_pos ⟨hlow, hhigh⟩]
    · rw [if_neg (by omega), if_neg (by omega), if_pos ⟨hlow, hhigh⟩]
    · rw [if_neg (by omega), if_neg (by omega), if_neg (by omega), if_pos ⟨hlow, hhigh⟩]

/-- A valid code point is the code of its character. -/
theorem toNat_ofNat_of_isValidChar {n : Nat} (h : n.isValidChar) :
    (Char.ofNat n).val.toNat = n := by
  rw [Char.ofNat, dif_pos h]
  rfl

/-- An octet is determined by its number. -/
theorem eq_ofNat_of_toNat_eq {b : UInt8} {n : Nat} (h : b.toNat = n) : b = UInt8.ofNat n := by
  rw [← h, UInt8.ofNat_toNat]

/-- The octets that are taken for a character are those that write it: the bounds on the second
octet keep out what could be written shorter, the surrogates and what lies beyond the last
character. -/
theorem Spelled.eq_utf8EncodeChar {bs : List UInt8} {c : Char} (h : Spelled bs c) :
    bs = String.utf8EncodeChar c := by
  have hcode : ∀ {c : Char} {n : Nat}, n < 0xD800 ∨ 0xDFFF < n ∧ n < 0x110000 → Char.ofNat n = c →
      c.val.toNat = n := by
    rintro c n hn rfl
    exact toNat_ofNat_of_isValidChar hn
  cases h with
  | single hfirst =>
      obtain ⟨hone, hc⟩ := (feedFirst_eq_done_iff _ _).mp hfirst
      have hc := hcode (by omega) hc
      simp only [String.utf8EncodeChar, hc]
      rw [if_pos hone, UInt8.ofNat_toNat]
  | @several b₁ _ _ _ hfirst hbs =>
      rcases (feedFirst_eq_more_iff _ _).mp hfirst with
        ⟨hlow, hhigh, rfl⟩ | ⟨hlow, hhigh, rfl⟩ | ⟨hlow, hhigh, rfl⟩
      · obtain ⟨b₂, rfl, hleast, hgreatest, hc⟩ := (Begun.completes_last_iff _ _ _ _ _).mp hbs
        have hc := hcode (by omega) hc
        simp only [String.utf8EncodeChar, hc]
        rw [if_neg (by omega), if_pos (by omega)]
        simp only [List.cons.injEq, and_true]
        exact ⟨eq_ofNat_of_toNat_eq (by omega), eq_ofNat_of_toNat_eq (by omega)⟩
      · obtain ⟨b₂, _, rfl, hleast, hgreatest, hbs⟩ :=
          (Begun.completes_more_iff _ 0 _ _ _ _).mp hbs
        obtain ⟨b₃, rfl, hleast', hgreatest', hc⟩ := (Begun.completes_last_iff _ _ _ _ _).mp hbs
        have hb₂ : 0x80 ≤ b₂.toNat ∧ b₂.toNat ≤ 0xBF := by
          split at hleast <;> split at hgreatest <;> omega
        -- below are the characters of two octets, and between them the surrogates
        have hbits : 0x20 ≤ (b₁.toNat - 0xE0) * 64 + (b₂.toNat - 0x80) ∧
            ((b₁.toNat - 0xE0) * 64 + (b₂.toNat - 0x80) < 0x360 ∨
              0x37F < (b₁.toNat - 0xE0) * 64 + (b₂.toNat - 0x80)) := by
          split at hleast <;> split at hgreatest <;> omega
        clear hleast hgreatest
        have hc := hcode (by omega) hc
        simp only [String.utf8EncodeChar, hc]
        rw [if_neg (by omega), if_neg (by omega), if_pos (by omega)]
        simp only [List.cons.injEq, and_true]
        exact ⟨eq_ofNat_of_toNat_eq (by omega), eq_ofNat_of_toNat_eq (by omega),
          eq_ofNat_of_toNat_eq (by omega)⟩
      · obtain ⟨b₂, _, rfl, hleast, hgreatest, hbs⟩ :=
          (Begun.completes_more_iff _ 1 _ _ _ _).mp hbs
        obtain ⟨b₃, _, rfl, hleast', hgreatest', hbs⟩ :=
          (Begun.completes_more_iff _ 0 _ _ _ _).mp hbs
        obtain ⟨b₄, rfl, hleast'', hgreatest'', hc⟩ := (Begun.completes_last_iff _ _ _ _ _).mp hbs
        have hb₂ : 0x80 ≤ b₂.toNat ∧ b₂.toNat ≤ 0xBF := by
          split at hleast <;> split at hgreatest <;> omega
        -- below are the characters of three octets, and above no characters
        have hbits : 0x10 ≤ (b₁.toNat - 0xF0) * 64 + (b₂.toNat - 0x80) ∧
            (b₁.toNat - 0xF0) * 64 + (b₂.toNat - 0x80) < 0x110 := by
          split at hleast <;> split at hgreatest <;> omega
        clear hleast hgreatest
        have hc := hcode (by omega) hc
        simp only [String.utf8EncodeChar, hc]
        rw [if_neg (by omega), if_neg (by omega), if_neg (by omega)]
        simp only [List.cons.injEq, and_true]
        exact ⟨eq_ofNat_of_toNat_eq (by omega), eq_ofNat_of_toNat_eq (by omega),
          eq_ofNat_of_toNat_eq (by omega), eq_ofNat_of_toNat_eq (by omega)⟩

/-- The encoding of a character is taken for that character. -/
theorem spelled_utf8EncodeChar (c : Char) : Spelled (String.utf8EncodeChar c) c := by
  have hvalid : c.val.toNat < 0xD800 ∨ 0xDFFF < c.val.toNat ∧ c.val.toNat < 0x110000 := c.valid
  have hcode : ∀ n, n = c.val.toNat → Char.ofNat n = c := by
    rintro n rfl
    exact Char.ofNat_toNat c
  simp only [String.utf8EncodeChar]
  generalize c.val.toNat = v at *
  split
  · refine .single ((feedFirst_eq_done_iff _ _).mpr ?_)
    rw [UInt8.toNat_ofNat']
    exact ⟨by omega, hcode _ (by omega)⟩
  · split
    · refine .several ((feedFirst_eq_more_iff _ _).mpr (.inl ⟨?_, ?_, rfl⟩))
        ((Begun.completes_last_iff _ _ _ _ _).mpr ⟨_, rfl, ?_, ?_, hcode _ ?_⟩)
      all_goals simp only [UInt8.toNat_ofNat', Nat.reducePow]
      all_goals omega
    · split
      · refine .several ((feedFirst_eq_more_iff _ _).mpr (.inr (.inl ⟨?_, ?_, rfl⟩)))
          ((Begun.completes_more_iff _ 0 _ _ _ _).mpr ⟨_, _, rfl, ?_, ?_,
            (Begun.completes_last_iff _ _ _ _ _).mpr ⟨_, rfl, ?_, ?_, hcode _ ?_⟩⟩)
        all_goals simp only [UInt8.toNat_ofNat', Nat.reducePow]
        all_goals first | omega | (split <;> omega)
      · refine .several ((feedFirst_eq_more_iff _ _).mpr (.inr (.inr ⟨?_, ?_, rfl⟩)))
          ((Begun.completes_more_iff _ 1 _ _ _ _).mpr ⟨_, _, rfl, ?_, ?_,
            (Begun.completes_more_iff _ 0 _ _ _ _).mpr ⟨_, _, rfl, ?_, ?_,
              (Begun.completes_last_iff _ _ _ _ _).mpr ⟨_, rfl, ?_, ?_, hcode _ ?_⟩⟩⟩)
        all_goals simp only [UInt8.toNat_ofNat', Nat.reducePow]
        all_goals first | omega | (split <;> omega)

/-- An octet of ASCII stands only for its own character: every octet of a longer character is
beyond ASCII. -/
theorem toNat_eq_of_mem_utf8EncodeChar {c : Char} {b : UInt8} (h : b ∈ String.utf8EncodeChar c)
    (hb : b.toNat < 0x80) : c.toNat = b.toNat := by
  have hunit : ∀ {n}, 0x80 ≤ n → n < 0x100 → b ≠ UInt8.ofNat n := by
    rintro n hlow hhigh rfl
    rw [UInt8.toNat_ofNat'] at hb
    omega
  simp only [String.utf8EncodeChar] at h
  split at h
  · rw [List.mem_singleton.mp h, UInt8.toNat_ofNat']
    show c.val.toNat = c.val.toNat % 256
    omega
  · exfalso
    split at h
    · simp only [List.mem_cons, List.not_mem_nil, or_false] at h
      rcases h with h | h
      all_goals exact hunit (by omega) (by omega) h
    · split at h
      · simp only [List.mem_cons, List.not_mem_nil, or_false] at h
        rcases h with h | h | h
        all_goals exact hunit (by omega) (by omega) h
      · simp only [List.mem_cons, List.not_mem_nil, or_false] at h
        rcases h with h | h | h | h
        all_goals exact hunit (by omega) (by omega) h

/-! ## The octets of a text -/

/-- Octets that complete a character are decoded as it, and decoding starts afresh behind them. -/
theorem charactersFrom_append_of_completes {begun : Begun} {bs : List UInt8} {c : Char}
    (h : begun.Completes bs c) (rest : List UInt8) :
    charactersFrom (some begun) (bs ++ rest) = some c :: charactersFrom none rest := by
  induction h with
  | last hfeed => simp only [List.singleton_append, charactersFrom, hfeed]
  | more hfeed _ ih => simp only [List.cons_append, charactersFrom, hfeed, ih]

/-- Octets that spell a character are decoded as it, and decoding starts afresh behind them. -/
theorem charactersFrom_append_of_spelled {bs : List UInt8} {c : Char} (h : Spelled bs c)
    (rest : List UInt8) :
    charactersFrom none (bs ++ rest) = some c :: charactersFrom none rest := by
  cases h with
  | single hfirst => simp only [List.singleton_append, charactersFrom, hfirst]
  | several hfirst hbs =>
      simp only [List.cons_append, charactersFrom, hfirst, charactersFrom_append_of_completes hbs]

/-- Decoded characters make a text exactly when none of them is missing. -/
theorem whole?_eq_some_iff {s : List (Option Char)} {text : List Char} :
    whole? s = some text ↔ s = text.map some := by
  induction s generalizing text with
  | nil => cases text <;> simp [whole?]
  | cons x s ih => cases x <;> cases text <;> simp [whole?, ih, and_comm]

/-- The rest of a whole text is whole. -/
theorem whole?_cons_eq_some {c : Char} {s : List (Option Char)} {text : List Char}
    (h : whole? (some c :: s) = some text) : ∃ more, text = c :: more ∧ whole? s = some more := by
  obtain ⟨more, hmore, rfl⟩ := Option.map_eq_some_iff.mp h
  exact ⟨more, rfl, hmore⟩

/-- A character under way is completed by the next octets, if all of them are read. -/
theorem exists_completes_of_whole? {begun : Begun} {bs : List UInt8} {text : List Char}
    (h : whole? (charactersFrom (some begun) bs) = some text) :
    ∃ tail rest c more, bs = tail ++ rest ∧ begun.Completes tail c ∧ text = c :: more ∧
      whole? (charactersFrom none rest) = some more := by
  induction bs generalizing begun with
  | nil => cases h
  | cons b bs ih =>
      simp only [charactersFrom] at h
      split at h
      · rename_i begun' hfeed
        obtain ⟨tail, rest, c, more, rfl, htail, htext, hmore⟩ := ih h
        exact ⟨b :: tail, rest, c, more, rfl, .more hfeed htail, htext, hmore⟩
      · rename_i c hfeed
        obtain ⟨more, htext, hmore⟩ := whole?_cons_eq_some h
        exact ⟨[b], bs, c, more, rfl, .last hfeed, htext, hmore⟩
      · cases h

/-- Octets that decode as a whole start with octets that spell a character. -/
theorem exists_spelled_of_whole? {b : UInt8} {bs : List UInt8} {text : List Char}
    (h : whole? (charactersFrom none (b :: bs)) = some text) :
    ∃ first rest c more, b :: bs = first ++ rest ∧ Spelled first c ∧ text = c :: more ∧
      whole? (charactersFrom none rest) = some more := by
  simp only [charactersFrom] at h
  split at h
  · rename_i begun hfirst
    obtain ⟨tail, rest, c, more, rfl, htail, htext, hmore⟩ := exists_completes_of_whole? h
    exact ⟨b :: tail, rest, c, more, rfl, .several hfirst htail, htext, hmore⟩
  · rename_i c hfirst
    obtain ⟨more, htext, hmore⟩ := whole?_cons_eq_some h
    exact ⟨[b], bs, c, more, rfl, .single hfirst, htext, hmore⟩
  · cases h

/-- Octets are read as a text exactly if they are the octets of that text. -/
theorem whole?_characters_eq_some_iff {os : List UInt8} {text : List Char} :
    whole? (characters os) = some text ↔ os = octets text := by
  simp only [characters]
  constructor
  · intro h
    induction text generalizing os with
    | nil =>
        cases os with
        | nil => rfl
        | cons b bs =>
            obtain ⟨_, _, _, _, _, _, htext, _⟩ := exists_spelled_of_whole? h
            cases htext
    | cons c text ih =>
        cases os with
        | nil => cases h
        | cons b bs =>
            obtain ⟨first, rest, c', more, hos, hfirst, htext, hmore⟩ := exists_spelled_of_whole? h
            obtain ⟨rfl, rfl⟩ := List.cons.inj htext
            rw [hos, hfirst.eq_utf8EncodeChar, ih hmore]
            rfl
  · rintro rfl
    induction text with
    | nil => rfl
    | cons c text ih =>
        have hc : octets (c :: text) = String.utf8EncodeChar c ++ octets text := rfl
        rw [hc, charactersFrom_append_of_spelled (spelled_utf8EncodeChar c), whole?, ih]
        rfl

/-- Texts with the same octets are the same. -/
theorem octets_injective : Function.Injective octets := by
  intro s t h
  have hs : whole? (characters (octets s)) = some s := whole?_characters_eq_some_iff.mpr rfl
  have ht : whole? (characters (octets s)) = some t := whole?_characters_eq_some_iff.mpr h
  exact Option.some.inj (hs.symm.trans ht)

end QuickFix.Text
