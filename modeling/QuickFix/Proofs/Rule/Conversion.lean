import QuickFix.Proofs.Rule.Basic
import QuickFix.Proofs.Search

/-!
# Reading a conversion

What the rule for conversions finds in a line. `Conversion.SpelledAt` says how a text starts with a
sentence that names a conversion, and `conversionAt?_eq_some_iff` that the reader finds just that.
The sentence ends with a character of the function's name, which is no blank, and so blanks at the
ends of a line change nothing (`conversion_trim`).

A line can hold several such sentences, and the trigger can be the start of none of them. The rule
takes the first sentence (`Conversion.FoundIn`), the one that a backtracking search for
`conversionPattern` finds, and calls the function named there if its name is more than dots
(`fix?_typeConversion_iff`).
-/

set_option autoImplicit false

namespace QuickFix.Rule

/-- A run is the longest one at the start of a text, and has a character at least. -/
theorem run?_eq_ite (p : Char → Bool) (s : List Char) :
    run? p s =
      if (s.takeWhile p).length < 1 then none else some (s.takeWhile p, s.dropWhile p) := by
  unfold run?
  dsimp only
  by_cases hnil : s.takeWhile p = []
  · simp [hnil]
  · rw [if_neg (by simpa using hnil), if_neg (by simpa using hnil)]

/-- A run is as long as it can be: it is not empty, and what follows it does not belong to it. -/
theorem run?_eq_some_iff (p : Char → Bool) (s taken rest : List Char) :
    run? p s = some (taken, rest) ↔
      s = taken ++ rest ∧ taken ≠ [] ∧ (∀ c ∈ taken, p c = true) ∧
        ∀ c, rest.head? = some c → p c = false := by
  have hrun := Text.startsWithRun_iff p s taken rest
  rw [run?_eq_ite]
  constructor
  · intro h
    split at h
    · cases h
    · rename_i hlong
      obtain ⟨htaken, hrest⟩ := Prod.mk.inj (Option.some.inj h)
      obtain ⟨hs, hclass⟩ := hrun.mpr ⟨htaken.symm, hrest.symm⟩
      refine ⟨hs, ?_, hclass⟩
      intro hnil
      simp [htaken, hnil] at hlong
  · rintro ⟨hs, hne, hclass⟩
    obtain ⟨htaken, hrest⟩ := hrun.mp ⟨hs, hclass⟩
    have hpos := List.length_pos_iff.mpr hne
    rw [← htaken, ← hrest, if_neg (by omega)]

/-- A text starts with the sentence that names a conversion, and something else follows. The names
of the types are words; the name of the function goes as far as it can. -/
structure Conversion.SpelledAt (found : Conversion) (s rest : List Char) : Prop where
  text : s = "You can convert ".toList ++ found.source ++ " to ".toList ++ found.target ++
    " with ".toList ++ found.function ++ rest
  source_ne : found.source ≠ []
  source_word : ∀ c ∈ found.source, Text.isWord c = true
  target_ne : found.target ≠ []
  target_word : ∀ c ∈ found.target, Text.isWord c = true
  function_ne : found.function ≠ []
  function_path : ∀ c ∈ found.function, isPathChar c = true
  stop : ∀ c, rest.head? = some c → isPathChar c = false

/-- A conversion is read at the start of a text exactly when its sentence stands there. -/
theorem conversionAt?_eq_some_iff (s : List Char) (found : Conversion) :
    conversionAt? s = some found ↔ ∃ rest, found.SpelledAt s rest := by
  simp only [conversionAt?, Option.bind_eq_bind, Option.bind_eq_some_iff, Prod.exists,
    Text.after?_eq_some_iff, run?_eq_some_iff, Option.some.injEq]
  constructor
  · rintro ⟨s₁, hs, source, s₂, ⟨hs₁, hsource, hword, -⟩, s₃, hs₂, target, s₄,
      ⟨hs₃, htarget, hword', -⟩, s₅, hs₄, function, rest, ⟨hs₅, hfunction, hpath, hstop⟩, rfl⟩
    refine ⟨rest, ?_, hsource, hword, htarget, hword', hfunction, hpath, hstop⟩
    rw [hs, hs₁, hs₂, hs₃, hs₄, hs₅]
    simp only [List.append_assoc]
  · rintro ⟨rest, htext, hsource, hword, htarget, hword', hfunction, hpath, hstop⟩
    -- both types' names end before a space, which is no word character
    have hspace : ∀ t : List Char, ∀ c, (' ' :: t).head? = some c → Text.isWord c = false := by
      intro t c hc
      obtain rfl : ' ' = c := Option.some.inj hc
      exact Text.isWord_of_isBlank (by decide)
    simp only [List.append_assoc] at htext
    exact ⟨_, htext, _, _, ⟨rfl, hsource, hword, hspace _⟩, _, rfl, _, _,
      ⟨rfl, htarget, hword', hspace _⟩, _, rfl, _, _, ⟨rfl, hfunction, hpath, hstop⟩, rfl⟩

/-- No blank is part of a function's name. -/
theorem isPathChar_of_isBlank {c : Char} (h : Text.isBlank c = true) : isPathChar c = false := by
  have hdot : c ≠ '.' := by
    rintro rfl
    exact absurd h (by decide)
  simp [isPathChar, Text.isWord_of_isBlank h, hdot]

/-- No conversion is read at a blank. -/
theorem conversionAt?_cons_blank {c : Char} (s : List Char) (h : Text.isBlank c = true) :
    conversionAt? (c :: s) = none := by
  have hnone : Text.after? "You can convert ".toList (c :: s) = none :=
    Text.after?_cons_blank h (by decide)
  unfold conversionAt?
  rw [hnone]
  rfl

/-- A conversion is spelled before blanks exactly if it is spelled without them. -/
theorem conversionAt?_append_blanks (s r : List Char) (hr : ∀ c ∈ r, Text.isBlank c = true) :
    conversionAt? (s ++ r) = conversionAt? s := by
  apply Option.ext
  intro found
  rw [conversionAt?_eq_some_iff, conversionAt?_eq_some_iff]
  constructor
  · rintro ⟨rest, htext, hsource, hword, htarget, hword', hfunction, hpath, hstop⟩
    obtain ⟨front, x, hlast⟩ := List.eq_nil_or_concat found.function |>.resolve_left hfunction
    have hx : Text.isBlank x = false := by
      have hpathx : isPathChar x = true := hpath x (by simp [hlast])
      by_contra hblank
      rw [isPathChar_of_isBlank (by simpa using hblank)] at hpathx
      cases hpathx
    rw [hlast, List.concat_eq_append, ← List.append_assoc] at htext
    obtain ⟨rest', htext', rfl⟩ := Text.exists_of_append_blanks hr hx htext
    refine ⟨rest', ?_, hsource, hword, htarget, hword', hfunction, hpath, ?_⟩
    · rw [htext', hlast, List.concat_eq_append]
      simp only [List.append_assoc]
    · intro c hc
      exact hstop c (by rw [List.head?_append, hc]; rfl)
  · rintro ⟨rest, htext, hsource, hword, htarget, hword', hfunction, hpath, hstop⟩
    refine ⟨rest ++ r, ?_, hsource, hword, htarget, hword', hfunction, hpath, ?_⟩
    · rw [htext, List.append_assoc]
    · intro c hc
      cases rest with
      | nil =>
          exact isPathChar_of_isBlank (hr c (List.mem_of_mem_head? hc))
      | cons y rest => exact hstop c hc

/-- Blanks at the ends of a line change nothing about the conversion that is proposed. -/
theorem conversion_trim (range : Range) (line : List Char) :
    conversion range (Text.trim line) = conversion range line := by
  unfold conversion
  rw [triggered?_trim, Text.leftmost?_trim (fun c s h => conversionAt?_cons_blank s h)
    conversionAt?_append_blanks]

/-! ## The first conversion in a line -/

/-- A text starts with a sentence that names some conversion. -/
def Conversion.Spelled (s : List Char) : Prop :=
  ∃ (found : Conversion) (rest : List Char), found.SpelledAt s rest

/-- A conversion is named in a line behind `before`, `after` follows, and no other one is named
further to the left. -/
def Conversion.FoundIn (found : Conversion) (line before after : List Char) : Prop :=
  ∃ t, Text.FirstPlace Conversion.Spelled line before t ∧ found.SpelledAt t after

/-- A text starts with a sentence that names a conversion exactly when one is read there. -/
theorem Conversion.spelled_iff (s : List Char) :
    Conversion.Spelled s ↔ ∃ found, conversionAt? s = some found :=
  exists_congr fun found => (conversionAt?_eq_some_iff s found).symm

/-- A text starts with one sentence only: its parts are where they are. -/
theorem Conversion.SpelledAt.unique {found found' : Conversion} {s rest rest' : List Char}
    (h : found.SpelledAt s rest) (h' : found'.SpelledAt s rest') :
    found = found' ∧ rest = rest' := by
  have hfound := (conversionAt?_eq_some_iff s found).mpr ⟨rest, h⟩
  have hfound' := (conversionAt?_eq_some_iff s found').mpr ⟨rest', h'⟩
  obtain rfl : found = found' := Option.some.inj (hfound.symm.trans hfound')
  exact ⟨rfl, List.append_cancel_left (h.text.symm.trans h'.text)⟩

/-- A line has at most one first conversion, at one place. -/
theorem Conversion.FoundIn.unique {found found' : Conversion}
    {line before after before' after' : List Char} (h : found.FoundIn line before after)
    (h' : found'.FoundIn line before' after') :
    found = found' ∧ before = before' ∧ after = after' := by
  obtain ⟨t, hplace, hspelled⟩ := h
  obtain ⟨t', hplace', hspelled'⟩ := h'
  obtain ⟨hbefore, rfl⟩ := hplace.unique hplace'
  obtain ⟨hfound, hafter⟩ := hspelled.unique hspelled'
  exact ⟨hfound, hbefore, hafter⟩

/-- In a line that names a conversion, the first one and what stands around it are determined. -/
theorem Conversion.existsUnique_foundIn {line before t : List Char} (hline : line = before ++ t)
    (hspelled : Conversion.Spelled t) :
    ∃! d : Conversion × List Char × List Char, d.1.FoundIn line d.2.1 d.2.2 := by
  obtain ⟨before, t, hplace⟩ := Text.exists_firstPlace hline hspelled
  obtain ⟨found, after, hfound⟩ := hplace.fit
  refine ⟨(found, before, after), ⟨t, hplace, hfound⟩, ?_⟩
  rintro ⟨found', before', after'⟩ hfound'
  obtain ⟨rfl, rfl, rfl⟩ := Conversion.FoundIn.unique hfound' ⟨t, hplace, hfound⟩
  rfl

/-- The conversion that is found in a line is the first that is named there. -/
theorem leftmost?_conversionAt?_eq_some_iff (line : List Char) (found : Conversion) :
    Text.leftmost? conversionAt? line = some found ↔
      ∃ before after, found.FoundIn line before after := by
  rw [Text.leftmost?_eq_some_iff_firstPlace Conversion.spelled_iff]
  constructor
  · rintro ⟨before, t, hplace, hat⟩
    obtain ⟨after, hspelled⟩ := (conversionAt?_eq_some_iff t found).mp hat
    exact ⟨before, after, t, hplace, hspelled⟩
  · rintro ⟨before, after, t, hplace, hspelled⟩
    exact ⟨before, t, hplace, (conversionAt?_eq_some_iff t found).mpr ⟨after, hspelled⟩⟩

/-- The sentence that names a conversion, as a pattern. -/
def conversionPattern : List Text.Element :=
  [.text "You can convert ".toList, .run Text.isWord 1, .text " to ".toList, .run Text.isWord 1,
    .text " with ".toList, .run isPathChar 1]

/-- A run before a text that it cannot enter is captured at its full length. -/
theorem head?_captures_run_text_eq {p : Char → Bool} {t : List Char} {x : Char}
    (ht : t.head? = some x) (hx : p x = false) (elements : List Text.Element) (s : List Char) :
    (Text.captures (.run p 1 :: .text t :: elements) s).head? =
      (run? p s).bind fun r => (Text.captures (.text t :: elements) r.2).head?.map (r.1 :: ·) := by
  rw [Text.head?_captures_run_text ht hx, run?_eq_ite]
  split
  · rfl
  · rfl

/-- A run that ends a pattern is captured at its full length. -/
theorem head?_captures_run_last_eq (p : Char → Bool) (s : List Char) :
    (Text.captures [.run p 1] s).head? = (run? p s).bind fun r => some [r.1] := by
  rw [Text.head?_captures_run_last, run?_eq_ite]
  split
  · rfl
  · rfl

/-- The reader finds what backtracking prefers: behind each word stands a space, so that no shorter
word fits. -/
theorem head?_captures_conversionPattern (s : List Char) :
    (Text.captures conversionPattern s).head? =
      (conversionAt? s).map fun found => [found.source, found.target, found.function] := by
  have hspace : Text.isWord ' ' = false := Text.isWord_of_isBlank (by decide)
  have hto : " to ".toList.head? = some ' ' := rfl
  have hwith : " with ".toList.head? = some ' ' := rfl
  unfold conversionPattern conversionAt?
  simp only [Text.head?_captures_text, head?_captures_run_text_eq hto hspace,
    head?_captures_run_text_eq hwith hspace, head?_captures_run_last_eq, Option.bind_eq_bind,
    Option.map_bind, Function.comp_def, Option.map_some]

/-- The pattern of the sentence captures the parts of the first conversion in a line. -/
theorem search_conversionPattern_eq_some_iff (line : List Char) (captured : List (List Char)) :
    Text.search conversionPattern line = some captured ↔
      ∃ (found : Conversion) (before after : List Char), found.FoundIn line before after ∧
        captured = [found.source, found.target, found.function] := by
  unfold Text.search
  simp only [head?_captures_conversionPattern]
  rw [Text.leftmost?_map, Option.map_eq_some_iff]
  simp only [leftmost?_conversionAt?_eq_some_iff]
  constructor
  · rintro ⟨found, ⟨before, after, hfound⟩, rfl⟩
    exact ⟨found, before, after, hfound, rfl⟩
  · rintro ⟨found, before, after, hfound, rfl⟩
    exact ⟨found, ⟨before, after, hfound⟩, rfl⟩

/-! ## The answer of the rule -/

/-- `name` is a text without the dots that it ends with. -/
def Undotted (s name : List Char) : Prop :=
  (∃ n, s = name ++ List.replicate n '.') ∧ name.getLast? ≠ some '.'

/-- Dropping the final dots leaves the one text without them. -/
theorem undotted_iff (s name : List Char) : Undotted s name ↔ name = dropFinalDots s := by
  unfold dropFinalDots
  constructor
  · rintro ⟨⟨n, rfl⟩, hlast⟩
    rw [List.reverse_append, List.reverse_replicate, List.dropWhile_append_of_pos (by simp)]
    rcases List.eq_nil_or_concat name with rfl | ⟨front, last, rfl⟩
    · rfl
    · have hdot : last ≠ '.' := by
        intro hdot
        exact hlast (by simp [hdot])
      rw [List.concat_eq_append, List.reverse_append, List.reverse_singleton,
        List.singleton_append, List.dropWhile_cons_of_neg (by simpa using hdot),
        List.reverse_cons, List.reverse_reverse]
  · intro hname
    have hdots : (s.reverse.takeWhile (· == '.')).reverse =
        List.replicate (s.reverse.takeWhile (· == '.')).length '.' := by
      rw [List.eq_replicate_iff]
      refine ⟨List.length_reverse, ?_⟩
      intro c hc
      simpa using List.mem_takeWhile_imp (List.mem_reverse.mp hc)
    constructor
    · refine ⟨(s.reverse.takeWhile (· == '.')).length, ?_⟩
      calc s
          _ = (s.reverse.takeWhile (· == '.') ++ s.reverse.dropWhile (· == '.')).reverse := by
            rw [List.takeWhile_append_dropWhile, List.reverse_reverse]
          _ = name ++ List.replicate (s.reverse.takeWhile (· == '.')).length '.' := by
            rw [List.reverse_append, ← hname, hdots]
    · intro hlast
      rw [hname, List.getLast?_reverse] at hlast
      obtain ⟨t, ht⟩ := List.head?_eq_some_iff.mp hlast
      have hdot := Text.of_dropWhile_eq_cons ht
      simp at hdot

/-- A call is proposed exactly if the line has the trigger, names a conversion and the function of
the first one has a name other than dots. -/
theorem conversion_eq_some_iff (range : Range) (line : List Char) (p : Proposal) :
    conversion range line = some p ↔
      ∃ (found : Conversion) (before after name : List Char),
        (∃ rest, Text.trim line = "You can convert ".toList ++ rest) ∧
        found.FoundIn line before after ∧ Undotted found.function name ∧ name ≠ [] ∧
        p = ⟨"Convert " ++ String.ofList found.source ++ " to " ++ String.ofList found.target ++
          " with " ++ String.ofList name, range.wrap (String.ofList name ++ "(") ")"⟩ := by
  unfold conversion
  simp only [Option.bind_eq_bind, Option.bind_eq_some_iff, triggered?_eq_some_iff,
    leftmost?_conversionAt?_eq_some_iff, undotted_iff]
  constructor
  · rintro ⟨rest, htrigger, found, ⟨before, after, hfound⟩, hname⟩
    split at hname
    · cases hname
    · rename_i hne
      refine ⟨found, before, after, _, ⟨rest, htrigger⟩, hfound, rfl, by simpa using hne, ?_⟩
      exact (Option.some.inj hname).symm
  · rintro ⟨found, before, after, name, ⟨rest, htrigger⟩, hfound, rfl, hne, rfl⟩
    refine ⟨rest, htrigger, found, ⟨before, after, hfound⟩, ?_⟩
    rw [if_neg (by simpa using hne)]

/-- **What a conversion is read from.** The rule answers exactly on a line that starts with the
trigger, blanks aside, names a conversion somewhere, and in the first place where it does so names a
function by more than dots. It then calls this function on the range. A line that names any
conversion has one first place, where the names and what stands around them are determined; they
are what a backtracking search captures. -/
theorem fix?_typeConversion_iff (site : Site) (i : Nat) :
    (∀ action, typeConversion.fix? site i = some action ↔
      ∃ (line : List Char) (found : Conversion) (before after name : List Char),
        site.lines[i]? = some line ∧
        (∃ rest, Text.trim line = "You can convert ".toList ++ rest) ∧
        found.FoundIn line before after ∧ Undotted found.function name ∧ name ≠ [] ∧
        action = Proposal.toAction ⟨"Convert " ++ String.ofList found.source ++ " to " ++
          String.ofList found.target ++ " with " ++ String.ofList name,
          site.range.wrap (String.ofList name ++ "(") ")"⟩ site.uri site.diagnostic) ∧
    (∀ line : List Char, (∃ before t, line = before ++ t ∧ Conversion.Spelled t) →
      ∃! d : Conversion × List Char × List Char, d.1.FoundIn line d.2.1 d.2.2) ∧
    ∀ line captured, Text.search conversionPattern line = some captured ↔
      ∃ (found : Conversion) (before after : List Char), found.FoundIn line before after ∧
        captured = [found.source, found.target, found.function] := by
  refine ⟨?_, ?_, search_conversionPattern_eq_some_iff⟩
  · intro action
    rw [fix?_eq_some_iff_onLine?]
    constructor
    · rintro ⟨line, p, hline, hp, rfl⟩
      obtain ⟨found, before, after, name, htrigger, hfound, hname, hne, rfl⟩ :=
        (conversion_eq_some_iff site.range line p).mp hp
      exact ⟨line, found, before, after, name, hline, htrigger, hfound, hname, hne, rfl⟩
    · rintro ⟨line, found, before, after, name, hline, htrigger, hfound, hname, hne, rfl⟩
      refine ⟨line, _, hline, (conversion_eq_some_iff site.range line _).mpr ?_, rfl⟩
      exact ⟨found, before, after, name, htrigger, hfound, hname, hne, rfl⟩
  · rintro line ⟨before, t, hline, hspelled⟩
    exact Conversion.existsUnique_foundIn hline hspelled

/-- A sentence that breaks off at the trigger, and behind it one that ends with dots. -/
theorem fix?_typeConversion_iff_second :
    ∃ (site : Site) (line : List Char) (action : Action),
      site.lines = [line] ∧
      line = "You can convert a You can convert int to f with B.g..".toList ∧
      typeConversion.fix? site 0 = some action ∧
      action.title = "Convert int to f with B.g" ∧
      action.changes = [(site.uri, site.range.wrap "B.g(" ")")] ∧
      (∃! d : Conversion × List Char × List Char, d.1.FoundIn line d.2.1 d.2.2) ∧
      Text.search conversionPattern line = some ["int".toList, "f".toList, "B.g..".toList] := by
  let line := "You can convert a You can convert int to f with B.g..".toList
  let site : Site := .bare [line] ⟨⟨0, 0⟩, ⟨0, 2⟩⟩
  let found : Conversion := ⟨"int".toList, "f".toList, "B.g..".toList⟩
  obtain ⟨before, after, hfound⟩ :=
    (leftmost?_conversionAt?_eq_some_iff line found).mp (by decide +kernel)
  have hname : Undotted found.function "B.g".toList := ⟨⟨2, rfl⟩, by decide⟩
  have htrigger : Text.trim line = "You can convert ".toList ++
      "a You can convert int to f with B.g..".toList := by decide
  have hspelled : ∃ before t, line = before ++ t ∧ Conversion.Spelled t := by
    obtain ⟨t, hplace, -⟩ := hfound
    exact ⟨before, t, hplace.text, hplace.fit⟩
  obtain ⟨hanswer, hunique, hsearch⟩ := fix?_typeConversion_iff site 0
  exact ⟨site, line, _, rfl, rfl, (hanswer _).mpr ⟨line, found, before, after, "B.g".toList, rfl,
    ⟨_, htrigger⟩, hfound, hname, by decide, rfl⟩, by decide +kernel, rfl, hunique line hspelled,
    (hsearch line _).mpr ⟨found, before, after, hfound, rfl⟩⟩

end QuickFix.Rule
