import QuickFix.Command.Run
import QuickFix.Proofs.Json.Writing
import QuickFix.Proofs.Numeral
import QuickFix.Proofs.Trimming

/-!
# One answer in two layouts

The answer of a run is printed on one line or with a line for every item. This file says that the
two texts differ in white space between lexemes only. `Region` follows a text through its string
literals, and `unspaced` deletes the blanks that stand outside of them.

The induction over the value is carried by `Unspaces s t`, which says of a stretch `s` that deleting
leaves `t` of it and goes on outside of literals: stretches can then be put one behind the other.
-/

set_option autoImplicit false

namespace QuickFix.Json

/-! ## Deleting blanks outside of literals -/

/-- Where a character of a text stands: outside of string literals, inside of one, or inside of one
and behind a backslash. -/
inductive Region
  | outside
  | inside
  | escaped
  deriving DecidableEq, Repr

/-- Where the next character stands. -/
def Region.next : Region → Char → Region
  | .outside, c => if c = '"' then .inside else .outside
  | .inside, c => if c = '"' then .outside else if c = '\\' then .escaped else .inside
  | .escaped, _ => .inside

/-- The text without the blanks outside of string literals, from a region on. -/
def unspacedFrom : Region → List Char → List Char
  | _, [] => []
  | r, c :: s =>
    if r = .outside && Text.isBlank c then unspacedFrom r s
    else c :: unspacedFrom (r.next c) s

/-- The text without the blanks outside of string literals. -/
def unspaced (s : List Char) : List Char :=
  unspacedFrom .outside s

/-- Deleting blanks leaves `t` of the stretch `s`, whatever follows it. -/
def Unspaces (s t : List Char) : Prop :=
  ∀ rest, unspaced (s ++ rest) = t ++ unspaced rest

/-- Nothing is left of nothing. -/
theorem Unspaces.nil : Unspaces [] [] := fun _ => rfl

/-- What is left of two stretches, one behind the other, is what is left of each. -/
theorem Unspaces.append {s t s' t' : List Char} (h : Unspaces s t) (h' : Unspaces s' t') :
    Unspaces (s ++ s') (t ++ t') := by
  intro rest
  rw [List.append_assoc, h, h', List.append_assoc]

/-- The white space of the notation is blank. -/
theorem isBlank_of_isSpace {c : Char} (h : isSpace c = true) : Text.isBlank c = true := by
  simp only [isSpace, Bool.or_eq_true, beq_iff_eq] at h
  rcases h with ((rfl | rfl) | rfl) | rfl <;> rfl

/-- A gap between lexemes is deleted whole. -/
theorem Gap.unspaces {s : List Char} (h : Gap s) : Unspaces s [] := by
  intro rest
  induction s with
  | nil => rfl
  | cons c s ih =>
      have hc : Text.isBlank c = true := isBlank_of_isSpace (h c List.mem_cons_self)
      rw [List.cons_append, unspaced, unspacedFrom, if_pos (by simp [hc])]
      exact ih fun d hd => h d (List.mem_cons_of_mem c hd)

/-- A character that is neither blank nor a quote is kept. -/
theorem unspaces_singleton {c : Char} (hblank : Text.isBlank c = false) (hquote : c ≠ '"') :
    Unspaces [c] [c] := by
  intro rest
  rw [List.singleton_append, unspaced, unspacedFrom, if_neg (by simp [hblank]), Region.next,
    if_neg hquote]
  rfl

/-- A stretch without blanks and quotes is kept as it is. -/
theorem unspaces_of_forall {s : List Char}
    (h : ∀ c ∈ s, Text.isBlank c = false ∧ c ≠ '"') : Unspaces s s := by
  induction s with
  | nil => exact Unspaces.nil
  | cons c s ih =>
      have hc := h c List.mem_cons_self
      exact (unspaces_singleton hc.1 hc.2).append (ih fun d hd => h d (List.mem_cons_of_mem c hd))

/-- The figures of a number are neither blanks nor quotes. -/
theorem isBlank_of_isFigure {c : Char} (h : Numeral.isFigure c = true) :
    Text.isBlank c = false ∧ c ≠ '"' := by
  simp only [Numeral.isFigure, Bool.or_eq_true, beq_iff_eq] at h
  rcases h with (((h | rfl) | rfl) | rfl) | rfl
  · refine ⟨Numeral.isBlank_of_isDigit h, ?_⟩
    rintro rfl
    revert h
    decide
  all_goals exact ⟨by rfl, by decide⟩

/-- No escape ends the literal that it stands in, and nothing inside of a literal is deleted. -/
theorem unspacedFrom_escaped (c : Char) (rest : List Char) :
    unspacedFrom .inside (escaped c ++ rest) = escaped c ++ unspacedFrom .inside rest := by
  have hhex : ∀ n, n < 16 → hexDigit n ≠ '"' ∧ hexDigit n ≠ '\\' := by decide
  have hinside : ∀ d s, d ≠ '"' → d ≠ '\\' →
      unspacedFrom .inside (d :: s) = d :: unspacedFrom .inside s := by
    intro d s hquote hslash
    simp [unspacedFrom, Region.next, hquote, hslash]
  have hpair : ∀ d s, unspacedFrom .inside ('\\' :: d :: s) =
      '\\' :: d :: unspacedFrom .inside s := by
    intro d s
    simp [unspacedFrom, Region.next]
  fun_cases escaped c with
  | case8 _ _ _ _ _ _ _ hcontrol =>
      obtain ⟨hhigh, hhigh'⟩ := hhex (c.toNat / 16) (by omega)
      obtain ⟨hlow, hlow'⟩ := hhex (c.toNat % 16) (by omega)
      simp only [List.cons_append, List.nil_append]
      rw [hpair, hinside _ _ (by decide) (by decide), hinside _ _ (by decide) (by decide),
        hinside _ _ hhigh hhigh', hinside _ _ hlow hlow']
  | case9 hquote hslash => exact hinside c rest hquote hslash
  | _ => exact hpair _ _

/-- A written string is kept as it is, with its blanks. -/
theorem unspaces_writeString (s : String) : Unspaces (writeString s) (writeString s) := by
  intro rest
  -- inside of a literal nothing is deleted, and no escape ends it
  have hbody : ∀ cs : List Char, unspacedFrom .inside (cs.flatMap escaped ++ '"' :: rest) =
      cs.flatMap escaped ++ '"' :: unspacedFrom .outside rest := by
    intro cs
    induction cs with
    | nil => simp [unspacedFrom, Region.next]
    | cons c cs ih =>
        rw [List.flatMap_cons, List.append_assoc, unspacedFrom_escaped, ih, List.append_assoc]
  have hopen : unspaced (writeString s ++ rest) =
      '"' :: unspacedFrom .inside (s.toList.flatMap escaped ++ '"' :: rest) := by
    simp [writeString, unspaced, unspacedFrom, Region.next, Text.isBlank]
  rw [hopen, hbody]
  simp [writeString, unspaced]

/-! ## Written values -/

/-- Of the written items of an array or an object, only the gaps around them are deleted. -/
theorem unspaces_enclosed {inner outer : List Char} (hinner : Gap inner) (houter : Gap outer)
    {closing : Char} (hclosing : Unspaces [closing] [closing]) {ts ts' : List (List Char)}
    (h : List.Forall₂ Unspaces ts ts') :
    Unspaces (enclosed inner outer closing ts) (enclosed [] [] closing ts') := by
  have hcomma : Unspaces [','] [','] := unspaces_singleton rfl (by decide)
  have hmore : ∀ {us us' : List (List Char)}, List.Forall₂ Unspaces us us' →
      Unspaces (us.flatMap fun t => ',' :: inner ++ t) (us'.flatMap fun t => ',' :: [] ++ t) := by
    intro us us' hus
    induction hus with
    | nil => exact Unspaces.nil
    | cons hu _ ih => exact ((hcomma.append hinner.unspaces).append hu).append ih
  cases h with
  | nil => exact hclosing
  | cons ht hts =>
      exact (((hinner.unspaces.append ht).append (hmore hts)).append houter.unspaces).append
        hclosing

/-- Of what stands between a name and its value, only the colon is left. -/
theorem Layout.Spaced.unspaces_colon {l : Layout} (h : l.Spaced) : Unspaces l.colon [':'] := by
  obtain ⟨gap, hcolon, hgap⟩ := h.exists_colon
  rw [hcolon]
  exact (unspaces_singleton (c := ':') rfl (by decide)).append hgap.unspaces

/-- Deleting blanks outside of literals makes the compact text of the text in any layout. -/
theorem unspaces_write {l : Layout} (hl : l.Spaced) (v : Json) (depth : Nat) :
    Unspaces (write l depth v) (write .compact depth v) := by
  have hplain : ∀ c, Text.isBlank c = false → c ≠ '"' → Unspaces [c] [c] :=
    fun c => unspaces_singleton
  have hliteral : ∀ s : List Char, (∀ c ∈ s, Text.isBlank c = false ∧ c ≠ '"') → Unspaces s s :=
    fun s => unspaces_of_forall
  induction v using Json.induct generalizing depth with
  | null => rw [write, write]; exact hliteral _ (by simp [Text.isBlank])
  | bool b => cases b <;> rw [write, write] <;> exact hliteral _ (by simp [Text.isBlank])
  | number n =>
      rw [write, write]
      exact hliteral _ fun c hc => isBlank_of_isFigure (n.isFigure_of_mem_write hc)
  | string s => rw [write, write]; exact unspaces_writeString s
  | array vs ih =>
      rw [write_array, write_array]
      refine (hplain '[' rfl (by decide)).append ?_
      apply unspaces_enclosed (hl.gap_lineBreak _) (hl.gap_lineBreak _) (hplain ']' rfl (by decide))
      rw [List.forall₂_map_left_iff, List.forall₂_map_right_iff, List.forall₂_same]
      exact fun v hv => ih v hv (depth + 1)
  | object ms ih =>
      rw [write_object, write_object]
      refine (hplain '{' rfl (by decide)).append ?_
      apply unspaces_enclosed (hl.gap_lineBreak _) (hl.gap_lineBreak _) (hplain '}' rfl (by decide))
      rw [List.forall₂_map_left_iff, List.forall₂_map_right_iff, List.forall₂_same]
      intro m hm
      exact ((unspaces_writeString m.1).append hl.unspaces_colon).append (ih m hm (depth + 1))

/-! ## Line feeds -/

/-- In the compact layout, what is not inside an item is a comma or the closing bracket. -/
theorem mem_enclosed_compact {closing x : Char} {ts : List (List Char)}
    (h : x ∈ enclosed [] [] closing ts) : x = closing ∨ x = ',' ∨ ∃ t ∈ ts, x ∈ t := by
  cases ts with
  | nil => exact .inl (List.mem_singleton.mp h)
  | cons t ts =>
      simp only [enclosed, List.mem_append, List.mem_flatMap, List.mem_cons, List.not_mem_nil,
        or_false, false_or] at h
      rcases h with (hfirst | ⟨u, hu, rfl | hmore⟩) | rfl
      · exact .inr (.inr ⟨t, List.mem_cons_self, hfirst⟩)
      · exact .inr (.inl rfl)
      · exact .inr (.inr ⟨u, List.mem_cons_of_mem t hu, hmore⟩)
      · exact .inl rfl

/-- A written string has no line feed: those of the string are escaped. -/
theorem lineFeed_not_mem_writeString (s : String) : '\n' ∉ writeString s := by
  have hhex : ∀ n, n < 16 → '\n' ≠ hexDigit n := by decide
  have hescaped : ∀ c, '\n' ∉ escaped c := by
    intro c
    fun_cases escaped c with
    | case8 _ _ _ _ _ _ _ hcontrol =>
        have hhigh := hhex (c.toNat / 16) (by omega)
        have hlow := hhex (c.toNat % 16) (by omega)
        simp [hhigh, hlow]
    | case9 _ _ hfeed =>
        rw [List.mem_singleton]
        exact fun h => hfeed h.symm
    | _ => decide
  intro h
  simp only [writeString, List.mem_append, List.mem_cons, List.mem_flatMap, List.not_mem_nil,
    or_false] at h
  rcases h with (hquote | ⟨c, -, hc⟩) | hquote
  · cases hquote
  · exact hescaped c hc
  · cases hquote

/-- A value in the compact layout stands on one line. -/
theorem lineFeed_not_mem_write_compact (v : Json) (depth : Nat) :
    '\n' ∉ write .compact depth v := by
  induction v using Json.induct generalizing depth with
  | null => rw [write]; decide
  | bool b => cases b <;> rw [write] <;> decide
  | number n =>
      rw [write]
      intro h
      cases n.isFigure_of_mem_write h
  | string s => rw [write]; exact lineFeed_not_mem_writeString s
  | array vs ih =>
      rw [write_array]
      intro h
      rcases List.mem_cons.mp h with hopen | h
      · cases hopen
      · rcases mem_enclosed_compact h with hclose | hcomma | ⟨t, ht, hfeed⟩
        · cases hclose
        · cases hcomma
        · obtain ⟨v, hv, rfl⟩ := List.mem_map.mp ht
          exact ih v hv (depth + 1) hfeed
  | object ms ih =>
      rw [write_object]
      intro h
      rcases List.mem_cons.mp h with hopen | h
      · cases hopen
      · rcases mem_enclosed_compact h with hclose | hcomma | ⟨t, ht, hfeed⟩
        · cases hclose
        · cases hcomma
        · obtain ⟨m, hm, rfl⟩ := List.mem_map.mp ht
          simp only [memberText, List.mem_append] at hfeed
          rcases hfeed with (hkey | hcolon) | hvalue
          · exact lineFeed_not_mem_writeString m.1 hkey
          · cases List.mem_singleton.mp hcolon
          · exact ih m hm (depth + 1) hvalue

end QuickFix.Json

namespace QuickFix.Command

/-- **One answer in two layouts.** The compact answer of a run is one line. What is left of the
indented answer without the blanks outside of its string literals is this line without its end. -/
theorem unspaced_answerText (c : Catalog) (uri : Uri) (cursor : Option Position) :
    ∃ line : List Char,
      (answerText c uri cursor false).toList = line ++ ['\n'] ∧ '\n' ∉ line ∧
      Json.unspaced (answerText c uri cursor true).toList = line := by
  let v := answer c uri cursor
  refine ⟨Json.write .compact 0 v, ?_, Json.lineFeed_not_mem_write_compact v 0, ?_⟩
  · simp [answerText, layout, Json.render, v]
  · have hwritten := Json.unspaces_write Json.Layout.spaced_indented v 0
    have hend : Json.unspaced ['\n'] = [] := rfl
    calc Json.unspaced (answerText c uri cursor true).toList
        = Json.unspaced (Json.write .indented 0 v ++ ['\n']) := by
          simp [answerText, layout, Json.render, v]
      _ = Json.write .compact 0 v := by rw [hwritten, hend, List.append_nil]

end QuickFix.Command
