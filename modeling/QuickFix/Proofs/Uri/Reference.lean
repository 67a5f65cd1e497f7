import QuickFix.Proofs.Fallible
import QuickFix.Proofs.Text
import QuickFix.Uri.Basic

/-!
# Reading URI references

What the reader of references takes a text for. A run of characters of a class is described by a
relation of its own, `Scanned`, and the reader takes the longest such run (`scan_eq_ok_iff`). The
scheme of a reference is the name before its first colon, if that is spelled like one
(`scheme_eq_some_iff`); what stands behind it does not matter.
-/

set_option autoImplicit false

namespace QuickFix.Uri

/-- The text of a URI parses as that URI. -/
theorem parse_text (u : Uri) : parse u.text = .ok u := by
  unfold parse
  split
  · rfl
  · rename_i r hr
    have haccepted := u.accepted
    rw [hr] at haccepted
    cases haccepted

/-- A text is read as the URI that is written like it. -/
theorem parse_eq_ok_iff (text : String) (u : Uri) : parse text = .ok u ↔ u.text = text := by
  constructor
  · intro h
    unfold parse at h
    split at h
    · rw [← Except.ok.inj h]
    · cases h
  · rintro rfl
    exact parse_text u

/-- There is a URI for every text that is read as a reference, and for no other. -/
theorem exists_text_eq_iff (t : List Char) :
    (∃ u : Uri, u.text.toList = t) ↔ ∃ r, Reference.parse t = .ok r := by
  constructor
  · rintro ⟨u, rfl⟩
    have haccepted := u.accepted
    cases hparse : Reference.parse u.text.toList with
    | ok r => exact ⟨r, rfl⟩
    | error e =>
        rw [hparse] at haccepted
        cases haccepted
  · rintro ⟨r, hr⟩
    have haccepted : (Reference.parse (String.ofList t).toList).isOk = true := by
      rw [String.toList_ofList, hr]
      rfl
    exact ⟨⟨String.ofList t, haccepted⟩, String.toList_ofList⟩

/-! ## Runs of characters -/

/-- A text of characters of a class and percent-encoded octets. -/
inductive Scanned (allowed : Char → Bool) : List Char → Prop
  | nil : Scanned allowed []
  | char {c : Char} {s : List Char} :
      c ≠ '%' → allowed c = true → Scanned allowed s → Scanned allowed (c :: s)
  | octet {a b : Char} {s : List Char} :
      isHex a = true → isHex b = true → Scanned allowed s → Scanned allowed ('%' :: a :: b :: s)

/-- Two runs of a class make one run. -/
theorem Scanned.append {allowed : Char → Bool} {s t : List Char} (hs : Scanned allowed s)
    (ht : Scanned allowed t) : Scanned allowed (s ++ t) := by
  induction hs with
  | nil => exact ht
  | char hne hallowed _ ih => exact .char hne hallowed ih
  | octet ha hb _ ih => exact .octet ha hb ih

/-- A run ends before a text: nothing that could continue it follows. -/
def Ends (allowed : Char → Bool) (rest : List Char) : Prop :=
  ∀ c, rest.head? = some c → c ≠ '%' ∧ allowed c = false

/-- A run is scanned up to where it ends. -/
theorem scan_append {allowed : Char → Bool} {s rest : List Char} (hs : Scanned allowed s)
    (hrest : Ends allowed rest) : scan allowed (s ++ rest) = .ok (s, rest) := by
  induction hs with
  | nil =>
      cases rest with
      | nil => rfl
      | cons c rest =>
          obtain ⟨hne, hallowed⟩ := hrest c rfl
          rw [List.nil_append, scan.eq_def]
          simp [hne, hallowed]
  | char hne hallowed _ ih =>
      rw [List.cons_append, scan.eq_def]
      simp [hne, hallowed, ih, Except.map]
  | octet ha hb _ ih => simp [scan, ha, hb, ih, Except.map]

/-- The reader takes the longest run. -/
theorem scan_eq_ok_iff (allowed : Char → Bool) (s taken rest : List Char) :
    scan allowed s = .ok (taken, rest) ↔
      s = taken ++ rest ∧ Scanned allowed taken ∧ Ends allowed rest := by
  constructor
  · intro h
    fun_induction scan allowed s generalizing taken with
    | case1 =>
        obtain ⟨rfl, rfl⟩ := Prod.mk.inj (Except.ok.inj h)
        exact ⟨rfl, .nil, by simp [Ends]⟩
    | case2 a b t hhex ih =>
        obtain ⟨⟨front, _⟩, hfront, hpair⟩ := map_eq_ok_iff.mp h
        obtain ⟨rfl, rfl⟩ := Prod.mk.inj hpair
        obtain ⟨rfl, hscanned, hends⟩ := ih front hfront
        rw [Bool.and_eq_true] at hhex
        exact ⟨rfl, .octet hhex.1 hhex.2 hscanned, hends⟩
    | case3 => cases h
    | case4 => cases h
    | case5 c s hne hallowed ih =>
        obtain ⟨⟨front, _⟩, hfront, hpair⟩ := map_eq_ok_iff.mp h
        obtain ⟨rfl, rfl⟩ := Prod.mk.inj hpair
        obtain ⟨rfl, hscanned, hends⟩ := ih front hfront
        exact ⟨rfl, .char hne hallowed hscanned, hends⟩
    | case6 c s hne hallowed =>
        obtain ⟨rfl, rfl⟩ := Prod.mk.inj (Except.ok.inj h)
        refine ⟨rfl, .nil, ?_⟩
        intro x hx
        obtain rfl := Option.some.inj hx
        exact ⟨hne, by simpa using hallowed⟩
  · rintro ⟨rfl, hscanned, hends⟩
    exact scan_append hscanned hends

/-! ## Schemes -/

/-- The spelling of a scheme: a letter, and then letters, digits and three signs. -/
def IsScheme (s : List Char) : Prop :=
  ∃ c cs, s = c :: cs ∧ c.isAlpha = true ∧ ∀ x ∈ cs, x.isAlphanum = true ∨ x ∈ ['+', '-', '.']

/-- The letters are those of the two ASCII ranges. -/
theorem isAlpha_eq (c : Char) :
    c.isAlpha = (('A' ≤ c && c ≤ 'Z') || ('a' ≤ c && c ≤ 'z')) := by
  rw [← Bool.decide_and ('A' ≤ c) (c ≤ 'Z')]
  rfl

/-- Plain characters are letters and digits. -/
theorem isPlain_eq (c : Char) : Text.isPlain c = (c.isAlpha || Numeral.isDigit c) := by
  rw [isAlpha_eq, Text.isPlain, Numeral.isDigit]
  ac_rfl

/-- Letters and digits are the plain characters of a text. -/
theorem isAlphanum_eq (c : Char) : c.isAlphanum = Text.isPlain c := by
  rw [isPlain_eq]
  rfl

/-- A letter is a plain character that is no digit. -/
theorem isAlpha_iff (c : Char) :
    c.isAlpha = true ↔ Text.isPlain c = true ∧ Numeral.isDigit c = false := by
  have hdigit : c.isAlpha = true → Numeral.isDigit c = false := by
    rw [isAlpha_eq, Numeral.isDigit]
    simp only [Char.le_def, UInt32.le_iff_toNat_le, Bool.or_eq_true, Bool.and_eq_true,
      decide_eq_true_eq, Bool.and_eq_false_iff, decide_eq_false_iff_not]
    have hbounds : 'A'.val.toNat = 65 ∧ 'a'.val.toNat = 97 ∧ '9'.val.toNat = 57 :=
      ⟨rfl, rfl, rfl⟩
    omega
  rw [isPlain_eq]
  constructor
  · intro h
    exact ⟨by simp [h], hdigit h⟩
  · rintro ⟨hplain, hnone⟩
    simpa [hnone] using hplain

/-- A scheme is made of letters, digits and three signs. -/
theorem isSchemeChar_iff (c : Char) :
    isSchemeChar c = true ↔ c.isAlphanum = true ∨ c ∈ ['+', '-', '.'] := by
  simp [isSchemeChar, isAlphanum_eq, or_assoc]

/-- Every character of a scheme may stand in a scheme. -/
theorem IsScheme.isSchemeChar {s : List Char} (h : IsScheme s) {c : Char} (hc : c ∈ s) :
    isSchemeChar c = true := by
  obtain ⟨first, more, rfl, hfirst, hmore⟩ := h
  rw [isSchemeChar_iff]
  rcases List.mem_cons.mp hc with rfl | hc
  · rw [isAlphanum_eq, isPlain_eq, hfirst]
    exact .inl rfl
  · exact hmore c hc

/-- The reader of schemes stops at the colon. -/
theorem IsScheme.split {s : List Char} (h : IsScheme s) (rest : List Char) :
    (s ++ ':' :: rest).takeWhile Uri.isSchemeChar = s ∧
      (s ++ ':' :: rest).dropWhile Uri.isSchemeChar = ':' :: rest := by
  have hall : ∀ c ∈ s, Uri.isSchemeChar c = true := fun c hc => h.isSchemeChar hc
  rw [List.takeWhile_append_of_pos hall, List.dropWhile_append_of_pos hall]
  exact ⟨by simp [show Uri.isSchemeChar ':' = false from rfl], rfl⟩

variable {scheme : Option String} {r : Reference}

/-- Reading the query and the fragment leaves the scheme alone. -/
theorem scheme_of_finish {authority : Option Authority} {path rest : List Char}
    (h : finish scheme authority path rest = .ok r) : r.scheme = scheme := by
  obtain ⟨_, -, hr⟩ := bind_eq_ok_iff.mp h
  rw [← Except.ok.inj hr]

/-- Reading an authority leaves the scheme alone. -/
theorem scheme_of_withAuthority {s : List Char} (h : withAuthority scheme s = .ok r) :
    r.scheme = scheme := by
  obtain ⟨⟨authority, t⟩, -, h⟩ := bind_eq_ok_iff.mp h
  obtain ⟨⟨path, rest⟩, -, h⟩ := bind_eq_ok_iff.mp h
  dsimp only at h
  split at h
  · exact scheme_of_finish h
  · split at h
    · exact scheme_of_finish h
    · cases h

/-- A reference behind a scheme has that scheme. -/
theorem scheme_of_withScheme {name : String} {s : List Char} (h : withScheme name s = .ok r) :
    r.scheme = some name := by
  unfold withScheme at h
  split at h
  · exact scheme_of_withAuthority h
  · obtain ⟨⟨path, rest⟩, -, h⟩ := bind_eq_ok_iff.mp h
    exact scheme_of_finish h

/-- A relative reference has no scheme. -/
theorem scheme_of_relative {scanned s : List Char} (h : relative scanned s = .ok r) :
    r.scheme = none := by
  obtain ⟨⟨first, t⟩, -, h⟩ := bind_eq_ok_iff.mp h
  dsimp only at h
  split at h
  · cases h
  · obtain ⟨⟨more, rest⟩, -, h⟩ := bind_eq_ok_iff.mp h
    exact scheme_of_finish h

/-- A reference has the scheme that its text starts with, and none if it does not start with one. -/
theorem scheme_cases {s : List Char} (h : Reference.parse s = .ok r) :
    (∃ name rest, s = name ++ ':' :: rest ∧ IsScheme name ∧ r.scheme = some (String.ofList name)) ∨
      (∀ name rest, s = name ++ ':' :: rest → ¬IsScheme name) ∧ r.scheme = none := by
  -- a scheme goes up to the first character that cannot stand in one
  have hnone : (∀ t, s.dropWhile isSchemeChar ≠ ':' :: t) →
      ∀ name rest, s = name ++ ':' :: rest → ¬IsScheme name := by
    rintro hrest name rest rfl hname
    exact hrest rest (hname.split rest).2
  unfold Reference.parse at h
  dsimp only at h
  split at h
  · rename_i t hrest
    split at h
    · cases h
    · rename_i c cs hscanned
      split at h
      · rename_i hletter
        refine .inl ⟨c :: cs, t, ?_, ⟨c, cs, rfl, ?_, ?_⟩, ?_⟩
        · rw [← hscanned, ← hrest, List.takeWhile_append_dropWhile]
        · rw [isAlpha_iff]
          simpa using hletter
        · intro x hx
          have hmem : x ∈ s.takeWhile isSchemeChar := hscanned ▸ List.mem_cons_of_mem c hx
          exact (isSchemeChar_iff x).mp (List.mem_takeWhile_imp hmem)
        · rw [scheme_of_withScheme h, hscanned]
      · cases h
  · rename_i t hrest
    refine .inr ⟨hnone (by simp [hrest]), ?_⟩
    split at h
    · exact scheme_of_withAuthority h
    · exact scheme_of_relative h
  · rename_i hcolon _
    exact .inr ⟨hnone hcolon, scheme_of_relative h⟩

/-- The scheme of a reference is the name before the first colon, if that is spelled like one. -/
theorem scheme_eq_some_iff {s : List Char} (h : Reference.parse s = .ok r) (name : String) :
    r.scheme = some name ↔ ∃ rest, s = name.toList ++ ':' :: rest ∧ IsScheme name.toList := by
  rcases scheme_cases h with ⟨name', rest, rfl, hname', hscheme⟩ | ⟨hnone, hscheme⟩
  · rw [hscheme, Option.some.injEq]
    constructor
    · rintro rfl
      rw [String.toList_ofList]
      exact ⟨rest, rfl, hname'⟩
    · rintro ⟨rest', hs, hname⟩
      have hsame : name' = name.toList := by
        rw [← (hname'.split rest).1, hs, (hname.split rest').1]
      rw [hsame, String.ofList_toList]
  · rw [hscheme]
    constructor
    · intro h
      cases h
    · rintro ⟨rest, hs, hname⟩
      exact absurd hname (hnone _ _ hs)

/-- The scheme of a URI, if it has one. -/
def scheme? (u : Uri) : Option String :=
  u.reference?.bind Reference.scheme

/-- A URI has a scheme exactly when its text starts with it and a colon. -/
theorem scheme?_eq_some_iff (u : Uri) (name : String) :
    u.scheme? = some name ↔
      ∃ rest, u.text.toList = name.toList ++ ':' :: rest ∧ IsScheme name.toList := by
  obtain ⟨r, hr⟩ := (exists_text_eq_iff u.text.toList).mp ⟨u, rfl⟩
  have hscheme : u.scheme? = r.scheme := by
    unfold scheme? reference?
    rw [hr]
    rfl
  rw [hscheme, scheme_eq_some_iff hr]

/-- A text starts with a scheme and a mark behind it. -/
def StartsWithScheme (mark s : List Char) : Prop :=
  ∃ name rest, IsScheme name ∧ s = name ++ mark ++ rest

/-- A text that starts with a slash starts with no scheme. -/
theorem not_startsWithScheme_slash (mark s : List Char) : ¬StartsWithScheme mark ('/' :: s) := by
  rintro ⟨name, rest, ⟨c, cs, rfl, hletter, -⟩, htext⟩
  obtain ⟨rfl, -⟩ := List.cons.inj htext
  cases hletter

/-- A URI lacks a scheme exactly if its text does not start with one. -/
theorem scheme?_eq_none_iff (u : Uri) :
    u.scheme? = none ↔ ¬StartsWithScheme ":".toList u.text.toList := by
  rw [Option.eq_none_iff_forall_ne_some]
  constructor
  · rintro h ⟨name, rest, hname, htext⟩
    refine h (String.ofList name) ((scheme?_eq_some_iff u _).mpr ⟨rest, ?_, ?_⟩)
    · rw [String.toList_ofList, htext, List.append_assoc]
      rfl
    · rw [String.toList_ofList]
      exact hname
  · intro h name hscheme
    obtain ⟨rest, htext, hname⟩ := (scheme?_eq_some_iff u name).mp hscheme
    refine h ⟨name.toList, rest, hname, ?_⟩
    rw [htext, List.append_assoc]
    rfl

/-! ## References to files -/

/-- A text that starts like a file's URI is read as one without authority, whose path goes as far as
it can. -/
theorem parse_file {s taken rest : List Char} (h : scan isPathChar ('/' :: s) = .ok (taken, rest)) :
    Reference.parse ("file://".toList ++ '/' :: s) =
      finish (some "file") (some ⟨none, plainHost [], none⟩) taken rest := by
  have hparse : Reference.parse ("file://".toList ++ '/' :: s) =
      withAuthority (some "file") ('/' :: s) := rfl
  have hauthority : authorityAt ('/' :: s) = .ok (⟨none, plainHost [], none⟩, '/' :: s) := by
    have hnone : scan isUserChar ('/' :: s) = .ok ([], '/' :: s) :=
      (scan_eq_ok_iff _ _ _ _).mpr ⟨rfl, .nil, by
        intro c hc
        obtain rfl := Option.some.inj hc
        exact ⟨by decide, rfl⟩⟩
    unfold authorityAt
    rw [hnone]
    rfl
  obtain ⟨htext, -, hends⟩ := (scan_eq_ok_iff _ _ _ _).mp h
  rw [hparse, withAuthority, hauthority]
  simp only [bind, Except.bind, h]
  cases taken with
  | nil =>
      obtain rfl : '/' :: s = rest := htext
      exact absurd (hends '/' rfl).2 (by decide)
  | cons c taken =>
      obtain ⟨rfl, -⟩ := List.cons.inj htext
      exact if_pos rfl

/-- A path that goes to the end of the text ends the reference. -/
theorem finish_nil (scheme : Option String) (authority : Option Authority) (path : List Char) :
    finish scheme authority path [] = .ok ⟨scheme, authority, String.ofList path, none, none⟩ :=
  rfl

/-- Only a query or a fragment can follow a path. -/
theorem finish_ne_ok {scheme : Option String} {authority : Option Authority} {path s : List Char}
    {c : Char} (hquery : c ≠ '?') (hfragment : c ≠ '#') (r : Reference) :
    finish scheme authority path (c :: s) ≠ .ok r := by
  intro h
  obtain ⟨parts, hparts, -⟩ := bind_eq_ok_iff.mp h
  unfold queryAndFragment at hparts
  simp [bind, Except.bind, hquery, hfragment] at hparts

end QuickFix.Uri
