import Mathlib.Data.List.Basic
import QuickFix.Edit

/-!
# Documents and the application of an edit

The file that an edit is applied to: lines of UTF-16 units, none of which is a line feed. A position
is a place in the text that the lines make when line feeds join them, and applying an edit replaces
the stretch between two such places; the result is read as lines again.

Fixes insert text at one place. `lines_edited_insertion` says what an insertion does to the lines:
the line at the place is broken there, the first inserted line continues its front and its rest
continues the last inserted line.
-/

set_option autoImplicit false

namespace QuickFix

/-! ## UTF-16 units -/

namespace Text

/-- The UTF-16 units of a character: itself in the basic plane, else a pair of surrogates. -/
def characterUnits (c : Char) : List UInt16 :=
  if c.toNat < 0x10000 then [UInt16.ofNat c.toNat]
  else
    [UInt16.ofNat (0xD800 + (c.toNat - 0x10000) / 0x400),
      UInt16.ofNat (0xDC00 + (c.toNat - 0x10000) % 0x400)]

/-- The UTF-16 units of a text. -/
def units (s : List Char) : List UInt16 :=
  s.flatMap characterUnits

/-- The unit of a line feed. -/
def lineFeed : UInt16 := 0x0A

/-- The unit of a space. -/
def space : UInt16 := 0x20

/-- The empty text has no units. -/
@[simp] theorem units_nil : units [] = [] := rfl

/-- The units of a text are those of its first character and of the rest. -/
@[simp] theorem units_cons (c : Char) (s : List Char) :
    units (c :: s) = characterUnits c ++ units s :=
  List.flatMap_cons

/-- The units of two texts, one behind the other, are those of each. -/
@[simp] theorem units_append (s t : List Char) : units (s ++ t) = units s ++ units t :=
  List.flatMap_append

/-- The units of texts put together are those of each, put together. -/
theorem units_flatMap {α : Type} (f : α → List Char) (xs : List α) :
    units (xs.flatMap f) = xs.flatMap fun x => units (f x) :=
  List.flatMap_assoc

/-- A line feed has one unit. -/
@[simp] theorem characterUnits_lineFeed : characterUnits '\n' = [lineFeed] := rfl

/-- Spaces are as many units as characters. -/
@[simp] theorem units_replicate_space (n : Nat) :
    units (List.replicate n ' ') = List.replicate n space := by
  induction n with
  | zero => rfl
  | succ n ih =>
      rw [List.replicate_succ, List.replicate_succ, units_cons, ih]
      rfl

/-- Spaces hold no line feed. -/
theorem lineFeed_not_mem_spaces (n : Nat) : lineFeed ∉ List.replicate n space := by
  simp [List.mem_replicate, lineFeed, space]

/-- Only the line feed has the unit of a line feed: surrogates lie far above it. -/
theorem lineFeed_mem_characterUnits {c : Char} (h : lineFeed ∈ characterUnits c) : c = '\n' := by
  have hunit : ∀ n, n < 0x10000 → lineFeed = UInt16.ofNat n → n = 0x0A := by
    intro n hn heq
    have hnat := congrArg UInt16.toNat heq
    rw [UInt16.toNat_ofNat_of_lt' (by omega)] at hnat
    exact hnat.symm
  have hbound : c.toNat < 0x110000 := by
    rcases c.valid with h | h
    · exact Nat.lt_trans h (by decide)
    · exact h.2
  unfold characterUnits at h
  split at h
  · rename_i hbasic
    have hc := hunit c.toNat hbasic (List.mem_singleton.mp h)
    exact Char.toNat_inj.mp hc
  · rw [List.mem_pair] at h
    rcases h with h | h
    · have := hunit _ (by omega) h
      omega
    · have := hunit _ (by omega) h
      omega

/-- A text without line feeds has no unit of one: surrogates are never taken for it. -/
theorem lineFeed_not_mem_units {s : List Char} (h : '\n' ∉ s) : lineFeed ∉ units s := by
  intro hmem
  obtain ⟨c, hc, hunit⟩ := List.mem_flatMap.mp hmem
  rw [lineFeed_mem_characterUnits hunit] at hc
  exact h hc

end Text

open Text (lineFeed units)

/-! ## Lines joined by line feeds -/

/-- The lines up to one of them are each ended by a line feed. -/
theorem intercalate_append_cons {α : Type} (x : α) (before : List (List α)) (line : List α)
    (after : List (List α)) :
    [x].intercalate (before ++ line :: after) =
      before.flatMap (· ++ [x]) ++ [x].intercalate (line :: after) := by
  induction before with
  | nil => rfl
  | cons l before ih =>
      rw [List.cons_append, List.intercalate_cons_of_ne_nil (by simp), ih, List.flatMap_cons]
      simp only [List.append_assoc]

/-- Behind the first of joined texts each has its separator before it. -/
theorem intercalate_cons_eq_flatMap {α : Type} (separator first : List α) (more : List (List α)) :
    separator.intercalate (first :: more) = first ++ more.flatMap (separator ++ ·) := by
  induction more generalizing first with
  | nil => simp
  | cons l more ih =>
      rw [List.intercalate_cons_cons, ih, List.flatMap_cons]
      simp only [List.append_assoc]

/-- What stands before joined lines stands before the first of them. -/
theorem append_intercalate_cons {α : Type} (x : α) (s line : List α) (after : List (List α)) :
    s ++ [x].intercalate (line :: after) = [x].intercalate ((s ++ line) :: after) := by
  cases after with
  | nil => simp
  | cons l after => simp

/-- Joined lines before joined lines: the last of the former and the first of the latter are one
line. -/
theorem intercalate_append_intercalate {α : Type} (x : α) (before : List (List α))
    (last line : List α) (after : List (List α)) :
    [x].intercalate (before ++ [last]) ++ [x].intercalate (line :: after) =
      [x].intercalate (before ++ (last ++ line) :: after) := by
  rw [intercalate_append_cons, intercalate_append_cons, List.append_assoc,
    List.intercalate_singleton, append_intercalate_cons]

/-- No piece of a split list holds what it was split at. -/
theorem not_mem_of_mem_splitOn {x : UInt16} {t piece : List UInt16} (h : piece ∈ t.splitOn x) :
    x ∉ piece := by
  induction t generalizing piece with
  | nil =>
      rw [List.splitOn_nil, List.mem_singleton] at h
      simp [h]
  | cons y t ih =>
      rw [List.splitOn_cons_eq_if_modifyHead] at h
      split at h
      · rcases List.mem_cons.mp h with rfl | h
        · simp
        · exact ih h
      · rename_i hne
        obtain ⟨first, more, hsplit⟩ := List.exists_cons_of_ne_nil (List.splitOn_ne_nil x t)
        rw [hsplit, List.modifyHead_cons] at h
        rcases List.mem_cons.mp h with rfl | h
        · have hfirst := ih (hsplit ▸ List.mem_cons_self)
          have hxy : x ≠ y := fun hxy => hne (by simp [hxy])
          simp [hfirst, hxy]
        · exact ih (hsplit ▸ List.mem_cons_of_mem _ h)

/-! ## Documents -/

/-- The lines of a file. -/
structure Document where
  lines : List (List UInt16)
  /-- A line feed ends a line and is not part of it. -/
  feedless : ∀ line ∈ lines, lineFeed ∉ line

namespace Document

/-- The text that the lines of a document make. -/
def text (doc : Document) : List UInt16 :=
  [lineFeed].intercalate doc.lines

/-- The document that a text is read as. -/
def ofText (t : List UInt16) : Document :=
  { lines := t.splitOn lineFeed
    feedless := fun _ h => not_mem_of_mem_splitOn h }

/-- The number of units of a document's text before a position: the lines above it, each with its
line feed, and the columns to the left of it. -/
def offset (doc : Document) (p : Position) : Nat :=
  ((doc.lines.take p.line.toNat).flatMap (· ++ [lineFeed])).length + p.character.toNat

/-- The document after an edit. -/
def edited (doc : Document) (e : Edit) : Document :=
  ofText (doc.text.take (doc.offset e.range.start) ++ units e.newText.toList ++
    doc.text.drop (doc.offset e.range.stop))

/-- The text of a document is cut in the line at a position into what stands before and what stands
after it. -/
theorem text_eq_append (doc : Document) {before after : List (List UInt16)}
    {front rest : List UInt16} (h : doc.lines = before ++ (front ++ rest) :: after) :
    doc.text = (before.flatMap (· ++ [lineFeed]) ++ front) ++
      [lineFeed].intercalate (rest :: after) := by
  unfold text
  rw [h, intercalate_append_cons, ← append_intercalate_cons, List.append_assoc]

/-- The offset of a position in a line is the length of what stands before it. -/
theorem offset_eq_length (doc : Document) {before after : List (List UInt16)}
    {front rest : List UInt16} (h : doc.lines = before ++ (front ++ rest) :: after) (p : Position)
    (hline : before.length = p.line.toNat) (hcolumn : front.length = p.character.toNat) :
    doc.offset p = (before.flatMap (· ++ [lineFeed]) ++ front).length := by
  unfold offset
  rw [h, ← hline, ← hcolumn, List.take_left, List.length_append]

/-- **Insertion.** The line at the place is broken there. Its front is continued by the first
inserted line, its rest continues the last inserted line, and the inserted lines between these two
are lines of their own. -/
theorem lines_edited_insertion (doc : Document) {before after : List (List UInt16)}
    {front rest : List UInt16} (h : doc.lines = before ++ (front ++ rest) :: after) (p : Position)
    (hline : before.length = p.line.toNat) (hcolumn : front.length = p.character.toNat)
    {text : String} {first last : List UInt16} {middle : List (List UInt16)}
    (htext : units text.toList = [lineFeed].intercalate (first :: middle ++ [last]))
    (hfirst : lineFeed ∉ first) (hmiddle : ∀ line ∈ middle, lineFeed ∉ line)
    (hlast : lineFeed ∉ last) :
    (doc.edited (Edit.insertion p text)).lines =
      before ++ (front ++ first) :: middle ++ (last ++ rest) :: after := by
  have hoffset := doc.offset_eq_length h p hline hcolumn
  have hjoined : doc.text.take (doc.offset p) ++ units text.toList ++ doc.text.drop (doc.offset p) =
      [lineFeed].intercalate (before ++ (front ++ first) :: middle ++ (last ++ rest) :: after) := by
    rw [doc.text_eq_append h, hoffset, List.take_left, List.drop_left, htext, List.append_assoc,
      intercalate_append_intercalate, List.append_assoc, List.cons_append,
      append_intercalate_cons, ← intercalate_append_cons]
    simp
  have hkept : ∀ line ∈ before ++ (front ++ first) :: middle ++ (last ++ rest) :: after,
      lineFeed ∉ line := by
    have hdoc := doc.feedless
    simp only [h, List.mem_append, List.mem_cons] at hdoc ⊢
    have hbroken : lineFeed ∉ front ++ rest := hdoc _ (.inr (.inl rfl))
    rw [List.mem_append, not_or] at hbroken
    rintro line ((hmem | rfl | hmem) | rfl | hmem)
    · exact hdoc line (.inl hmem)
    · simp [hbroken.1, hfirst]
    · exact hmiddle line hmem
    · simp [hlast, hbroken.2]
    · exact hdoc line (.inr (.inr hmem))
  calc (doc.edited (Edit.insertion p text)).lines
      = (doc.text.take (doc.offset p) ++ units text.toList ++
          doc.text.drop (doc.offset p)).splitOn lineFeed := rfl
    _ = before ++ (front ++ first) :: middle ++ (last ++ rest) :: after := by
        rw [hjoined, List.splitOn_intercalate lineFeed hkept (by simp)]

end Document

end QuickFix
