import QuickFix.Proofs.Document
import QuickFix.Proofs.Uri.Encoding

/-!
# The URIs of documents

A report names its document by a URI or by a file path, and the URI that stands for the document in
a catalog is made from that name. `ofDocument_eq_ok_iff` says which URI that is: a text with `://`
anywhere in it is its own URI, and any other text is a path, whose components are encoded behind
`file://`.

Components come back from the octets that the URI stands for (`components_of_pathOctets`), so paths
have the same URI only if they lead through the same components. But a path that holds one of the
four characters that encoding misses has no URI (`exists_parse_fileText_iff`), and a path that holds
`://` is taken for a URI even if no scheme stands before it.
-/

set_option autoImplicit false

namespace QuickFix.Uri

/-! ## Paths and their components -/

/-- The components of a path: what stands between slashes, apart from nothing and single dots. -/
def pathComponents (path : List Char) : List (List Char) :=
  (path.splitOn '/').filter fun c => c ≠ [] ∧ c ≠ ['.']

/-- A path from the root on: one that does not start there continues the working directory. -/
def rooted (workingDirectory path : List Char) : List Char :=
  if path.head? = some '/' then path else workingDirectory ++ '/' :: path

/-- Splitting a path at slashes gives its pieces. -/
theorem splitOn_slash (path : List Char) : path.splitOn '/' = Text.pieces (· == '/') path :=
  (Text.pieces_eq_splitOnP _ _).symm

/-- The components that are computed are those of the path. -/
theorem components_eq (path : List Char) : components path = pathComponents path := by
  unfold components pathComponents
  rw [splitOn_slash]
  apply List.filter_congr
  intro c _
  rw [Bool.eq_iff_iff]
  simp

/-- The components from the root on are those of the path from the root on. -/
theorem fromRoot_eq (workingDirectory path : List Char) :
    fromRoot workingDirectory path = pathComponents (rooted workingDirectory path) := by
  unfold fromRoot rooted
  split
  · rw [List.head?_cons, if_pos rfl, components_eq]
  · rename_i hslash
    have hhead : path.head? ≠ some '/' := by
      intro h
      obtain ⟨rest, hrest⟩ := List.head?_eq_some_iff.mp h
      exact hslash rest hrest
    rw [if_neg hhead, ← components_eq]
    unfold components
    rw [Text.pieces_append_cons (· == '/') _ _ (beq_self_eq_true '/'), List.filter_append]

/-- A component is not empty, and is made of the characters of the path other than the slash. -/
theorem of_mem_pathComponents {path w : List Char} (h : w ∈ pathComponents path) :
    w ≠ [] ∧ ∀ c ∈ w, c ∈ path ∧ c ≠ '/' := by
  obtain ⟨hw, hkept⟩ := List.mem_filter.mp h
  rw [splitOn_slash] at hw
  refine ⟨(of_decide_eq_true hkept).1, ?_⟩
  intro c hc
  obtain ⟨hmem, hslash⟩ := Text.of_mem_of_mem_pieces hw hc
  exact ⟨hmem, by simpa using hslash⟩

/-- Every character of a path but slashes and dots is in one of its components. -/
theorem exists_mem_pathComponents {path : List Char} {c : Char} (hslash : c ≠ '/')
    (hdot : c ≠ '.') (hc : c ∈ path) : ∃ w ∈ pathComponents path, c ∈ w := by
  obtain ⟨w, hw, hcw⟩ := Text.exists_mem_pieces (p := (· == '/')) hc (by simpa using hslash)
  rw [← splitOn_slash] at hw
  refine ⟨w, List.mem_filter.mpr ⟨hw, decide_eq_true ⟨List.ne_nil_of_mem hcw, ?_⟩⟩, hcw⟩
  rintro rfl
  exact hdot (List.mem_singleton.mp hcw)

/-! ## The text of a file's URI -/

/-- Encoded components, each behind a slash. -/
def slashed (cs : List (List Char)) : List Char :=
  cs.flatMap fun c => '/' :: encodedComponent c

/-- The path of the URI of components from the root on. -/
def pathText : List (List Char) → List Char
  | [] => ['/']
  | cs => slashed cs

/-- Octets of components, each behind a slash. -/
def pathOctets : List (List Char) → List UInt8
  | [] => [0x2F]
  | cs => cs.flatMap fun c => 0x2F :: Text.octets c

/-- The first component stands behind a slash, and the others follow. -/
theorem slashed_cons (c : List Char) (cs : List (List Char)) :
    slashed (c :: cs) = ['/'] ++ (encodedComponent c ++ slashed cs) :=
  rfl

/-- The URI of a file is the scheme and an empty authority before the path. -/
theorem fileText_eq (cs : List (List Char)) : fileText cs = "file://".toList ++ pathText cs := by
  cases cs with
  | nil => rfl
  | cons c cs => rfl

/-- The path of a URI decodes to the octets of its components behind slashes. -/
theorem percentDecoded_slashed (cs : List (List Char)) :
    percentDecoded (slashed cs) = cs.flatMap fun c => 0x2F :: Text.octets c := by
  induction cs with
  | nil => rfl
  | cons c cs ih =>
      rw [slashed_cons, List.singleton_append, percentDecoded_cons (by decide),
        percentDecoded_encodedComponent_append, ih, List.flatMap_cons]
      rfl

/-- The path of a file's URI stands for the octets of its components. -/
theorem percentDecoded_pathText (cs : List (List Char)) :
    percentDecoded (pathText cs) = pathOctets cs := by
  cases cs with
  | nil => rfl
  | cons c cs => exact percentDecoded_slashed (c :: cs)

/-- Components can be read off their octets: these are cut at the slashes. -/
theorem components_of_pathOctets {cs : List (List Char)} (h : ∀ c ∈ cs, c ≠ [] ∧ '/' ∉ c) :
    ((pathOctets cs).splitOn 0x2F).filter (fun os => !os.isEmpty) = cs.map Text.octets := by
  -- no character but the slash has its octet
  have hslash : ∀ c ∈ cs, (0x2F : UInt8) ∉ Text.octets c := by
    intro c hc hmem
    obtain ⟨x, hx, hoctet⟩ := List.mem_flatMap.mp hmem
    have hcode := Text.toNat_eq_of_mem_utf8EncodeChar hoctet (by decide)
    obtain rfl : x = '/' := Char.toNat_inj.mp hcode
    exact (h c hc).2 hx
  have hne : ∀ c ∈ cs, Text.octets c ≠ [] := by
    intro c hc hnil
    exact (h c hc).1 (Text.octets_injective hnil)
  cases hcs : cs with
  | nil => decide
  | cons c more =>
      have hjoined : pathOctets (c :: more) =
          [0x2F].intercalate ([] :: (c :: more).map Text.octets) := by
        rw [intercalate_cons_eq_flatMap, List.flatMap_map]
        rfl
      rw [hjoined, ← hcs, List.splitOn_intercalate, List.filter_cons_of_neg (by simp),
        List.filter_eq_self.mpr]
      · simpa using hne
      · simpa using hslash
      · simp

/-- Components can be told from the octets of their path. -/
theorem pathOctets_inj {cs ds : List (List Char)} (hcs : ∀ c ∈ cs, c ≠ [] ∧ '/' ∉ c)
    (hds : ∀ d ∈ ds, d ≠ [] ∧ '/' ∉ d) (h : pathOctets cs = pathOctets ds) : cs = ds := by
  apply Text.octets_injective.list_map
  rw [← components_of_pathOctets hcs, h, components_of_pathOctets hds]

/-! ## Paths that fit into a URI -/

/-- A slash may stand in a path. -/
theorem scanned_slash : Scanned isPathChar ['/'] :=
  .char (by decide) rfl .nil

/-- Components without misfits make a run of path characters. -/
theorem scanned_slashed {cs : List (List Char)} (h : ∀ w ∈ cs, ∀ c ∈ w, c ∉ misfits) :
    Scanned isPathChar (slashed cs) := by
  induction cs with
  | nil => exact .nil
  | cons w cs ih =>
      have hw := scanned_encodedComponent (h w List.mem_cons_self)
      have hrest := ih fun v hv => h v (List.mem_cons_of_mem w hv)
      rw [slashed_cons]
      exact scanned_slash.append (hw.append hrest)

/-- The first misfit among the components ends the run of path characters. -/
theorem blocked_slashed {cs : List (List Char)} {w : List Char} {c : Char} (hw : w ∈ cs)
    (hc : c ∈ w) (hmisfit : c ∈ misfits) : Blocked (slashed cs) := by
  induction cs with
  | nil => cases hw
  | cons v cs ih =>
      rw [slashed_cons]
      apply Blocked.append_left scanned_slash
      by_cases hv : ∀ x ∈ v, x ∉ misfits
      · have hrest : w ∈ cs := by
          rcases List.mem_cons.mp hw with rfl | hrest
          · exact absurd hmisfit (hv c hc)
          · exact hrest
        exact (ih hrest).append_left (scanned_encodedComponent hv)
      · obtain ⟨x, hx, hmisfit⟩ : ∃ x ∈ v, x ∈ misfits := by simpa using hv
        exact (blocked_encodedComponent hx hmisfit).append_right _

/-- The path of components without misfits is a run of path characters. -/
theorem scanned_pathText {cs : List (List Char)} (h : ∀ w ∈ cs, ∀ c ∈ w, c ∉ misfits) :
    Scanned isPathChar (pathText cs) := by
  cases cs with
  | nil => exact scanned_slash
  | cons w cs => exact scanned_slashed h

/-- A misfit in a component blocks the path. -/
theorem blocked_pathText {cs : List (List Char)} {w : List Char} {c : Char} (hw : w ∈ cs)
    (hc : c ∈ w) (hmisfit : c ∈ misfits) : Blocked (pathText cs) := by
  cases cs with
  | nil => cases hw
  | cons v cs => exact blocked_slashed hw hc hmisfit

/-- A path holds a misfit exactly if one of its components does. -/
theorem misfits_pathComponents_iff (path : List Char) :
    (∀ w ∈ pathComponents path, ∀ c ∈ w, c ∉ misfits) ↔ ∀ c ∈ path, c ∉ misfits := by
  constructor
  · intro h c hc hmisfit
    have hslash : c ≠ '/' := by
      rintro rfl
      exact absurd hmisfit (by decide)
    have hdot : c ≠ '.' := by
      rintro rfl
      exact absurd hmisfit (by decide)
    obtain ⟨w, hw, hcw⟩ := exists_mem_pathComponents hslash hdot hc
    exact h w hw c hcw hmisfit
  · intro h w hw c hc
    exact h c ((of_mem_pathComponents hw).2 c hc).1

/-- The path of a file's URI starts with a slash. -/
theorem exists_pathText_eq_cons (cs : List (List Char)) : ∃ s, pathText cs = '/' :: s := by
  cases cs with
  | nil => exact ⟨[], rfl⟩
  | cons c cs => exact ⟨_, rfl⟩

/-- The text of a file's URI is a reference exactly if no component holds a misfit. -/
theorem exists_parse_fileText_iff (cs : List (List Char)) :
    (∃ r, Reference.parse (fileText cs) = .ok r) ↔ ∀ w ∈ cs, ∀ c ∈ w, c ∉ misfits := by
  obtain ⟨s, hs⟩ := exists_pathText_eq_cons cs
  rw [fileText_eq, hs]
  constructor
  · rintro ⟨r, hr⟩ w hw c hc hmisfit
    obtain ⟨front, x, back, htext, hfront, hx⟩ := blocked_pathText hw hc hmisfit
    obtain ⟨-, hpath, hpercent, hquery, hfragment⟩ := of_mem_misfits hx
    have hends : Ends isPathChar (x :: back) := by
      intro y hy
      obtain rfl := Option.some.inj hy
      exact ⟨hpercent, hpath⟩
    have hscan := scan_append hfront hends
    rw [← htext, hs] at hscan
    rw [parse_file hscan] at hr
    exact finish_ne_ok hquery hfragment r hr
  · intro h
    have hscan : scan isPathChar (pathText cs ++ []) = .ok (pathText cs, []) :=
      scan_append (scanned_pathText h) (by simp [Ends])
    rw [List.append_nil, hs] at hscan
    exact ⟨_, (parse_file hscan).trans (finish_nil _ _ _)⟩

/-! ## The URI of a document -/

/-- Which URI a document has: the text itself where `://` occurs in it, and otherwise that of the
path from the root on. -/
theorem ofDocument_eq_ok_iff (workingDirectory : List Char) (path : String) (u : Uri) :
    ofDocument workingDirectory path = .ok u ↔
      ("://".toList <:+: path.toList ∧ u.text = path) ∨
      (¬"://".toList <:+: path.toList ∧ path ≠ "" ∧
        u.text.toList = fileText (pathComponents (rooted workingDirectory path.toList))) := by
  have hoccurs : Text.occurs [':', '/', '/'] path.toList = true ↔ "://".toList <:+: path.toList :=
    Text.occurs_iff_infix _ _
  unfold ofDocument
  by_cases hmark : "://".toList <:+: path.toList
  · rw [if_pos (hoccurs.mpr hmark), mapError_eq_ok_iff, parse_eq_ok_iff]
    simp only [hmark, true_and, not_true_eq_false, false_and, or_false]
  · rw [if_neg fun h => hmark (hoccurs.mp h)]
    by_cases hempty : path = ""
    · rw [if_pos (by simp [hempty])]
      simp [hempty]
    · rw [if_neg (by simpa using hempty), mapError_eq_ok_iff, parse_eq_ok_iff, fromRoot_eq]
      have htext : ∀ t : List Char, u.text = String.ofList t ↔ u.text.toList = t := by
        intro t
        rw [← String.toList_inj, String.toList_ofList]
      simp only [hmark, hempty, htext, false_and, not_false_eq_true, ne_eq, true_and, false_or]

/-- **Which paths have a URI.** A path, that is a text that is not empty and holds no `://`, has a
`file://` URI exactly if four characters, which are not encoded, do not occur in it or in the
working directory that it continues. -/
theorem ofDocument_file_iff (workingDirectory : List Char) (path : String) (hne : path ≠ "")
    (hplain : ¬"://".toList <:+: path.toList) :
    (∃ u, ofDocument workingDirectory path = .ok u ∧ "file://".toList <+: u.text.toList) ↔
      ∀ c ∈ rooted workingDirectory path.toList, c ∉ ['[', ']', '^', '|'] := by
  show _ ↔ ∀ c ∈ rooted workingDirectory path.toList, c ∉ misfits
  rw [← misfits_pathComponents_iff, ← exists_parse_fileText_iff, ← exists_text_eq_iff]
  constructor
  · rintro ⟨u, hu, -⟩
    rcases (ofDocument_eq_ok_iff _ _ _).mp hu with ⟨hmark, -⟩ | ⟨-, -, htext⟩
    · exact absurd hmark hplain
    · exact ⟨u, htext⟩
  · rintro ⟨u, htext⟩
    refine ⟨u, (ofDocument_eq_ok_iff _ _ _).mpr (.inr ⟨hplain, hne, htext⟩), ?_⟩
    rw [htext, fileText_eq]
    exact List.prefix_append _ _

/-- A path with a space, a percent sign and a letter beyond ASCII. -/
theorem ofDocument_file_iff_encoded :
    "a b/100%ü" ≠ "" ∧ ¬"://".toList <:+: "a b/100%ü".toList ∧
      ∃ u, ofDocument ['/'] "a b/100%ü" = .ok u ∧ "file://".toList <+: u.text.toList :=
  have hne : "a b/100%ü" ≠ "" := by decide
  have hplain : ¬"://".toList <:+: "a b/100%ü".toList := Text.not_infix_of_occurs (by decide)
  ⟨hne, hplain, (ofDocument_file_iff ['/'] _ hne hplain).mpr (by simp [rooted])⟩

/-- A path with brackets is refused. -/
theorem ofDocument_brackets_refused :
    "a[b]" ≠ "" ∧ ¬"://".toList <:+: "a[b]".toList ∧ ∀ u, ofDocument ['/'] "a[b]" ≠ .ok u := by
  have hplain : ¬"://".toList <:+: "a[b]".toList := Text.not_infix_of_occurs (by decide)
  refine ⟨by decide, hplain, ?_⟩
  intro u hu
  rcases (ofDocument_eq_ok_iff _ _ _).mp hu with ⟨hmark, -⟩ | ⟨-, -, htext⟩
  · exact absurd hmark hplain
  · have hparse := (exists_text_eq_iff _).mp ⟨u, htext⟩
    rw [exists_parse_fileText_iff, misfits_pathComponents_iff] at hparse
    exact hparse '[' (by decide) (by decide)

/-- **Paths with the same URI.** Two paths that have a URI have the same one exactly if their
components from the root on are the same, and the URI stands for the octets of these components,
each behind a slash. -/
theorem ofDocument_eq_iff_components (workingDirectory : List Char) (p q : String) (u v : Uri)
    (hp : ¬"://".toList <:+: p.toList) (hq : ¬"://".toList <:+: q.toList)
    (hu : ofDocument workingDirectory p = .ok u) (hv : ofDocument workingDirectory q = .ok v) :
    (u = v ↔ pathComponents (rooted workingDirectory p.toList) =
      pathComponents (rooted workingDirectory q.toList)) ∧
    ∃ rest, u.text.toList = "file://".toList ++ rest ∧
      percentDecoded rest = pathOctets (pathComponents (rooted workingDirectory p.toList)) := by
  have htext : ∀ {path : String} {w : Uri}, ¬"://".toList <:+: path.toList →
      ofDocument workingDirectory path = .ok w → w.text.toList = "file://".toList ++
        pathText (pathComponents (rooted workingDirectory path.toList)) := by
    intro path w hplain hw
    rcases (ofDocument_eq_ok_iff _ _ _).mp hw with ⟨hmark, -⟩ | ⟨-, -, htext⟩
    · exact absurd hmark hplain
    · rw [htext, fileText_eq]
  have hcomponents : ∀ path, ∀ c ∈ pathComponents path, c ≠ [] ∧ '/' ∉ c := by
    intro path c hc
    obtain ⟨hne, hchars⟩ := of_mem_pathComponents hc
    exact ⟨hne, fun hslash => (hchars '/' hslash).2 rfl⟩
  refine ⟨⟨?_, ?_⟩, _, htext hp hu, percentDecoded_pathText _⟩
  · rintro rfl
    have hpath := List.append_cancel_left ((htext hp hu).symm.trans (htext hq hv))
    apply pathOctets_inj (hcomponents _) (hcomponents _)
    rw [← percentDecoded_pathText, hpath, percentDecoded_pathText]
  · intro hsame
    have hsameText : u.text.toList = v.text.toList := by
      rw [htext hp hu, htext hq hv, hsame]
    cases u
    cases v
    obtain rfl := String.toList_inj.mp hsameText
    rfl

/-- Two spellings of one path, and one that differs from them by a percent sign. -/
theorem ofDocument_eq_iff_components_spellings :
    ∃ u v w, ofDocument ['/'] "./a//b c/" = .ok u ∧ ofDocument ['/'] "/a/b c" = .ok v ∧
      ofDocument ['/'] "a/b%20c" = .ok w ∧ u = v ∧ u ≠ w ∧
      ∃ rest, u.text.toList = "file://".toList ++ rest ∧
        percentDecoded rest = Text.octets "/a/b c".toList := by
  have huri : ∀ cs : List (List Char), (∀ w ∈ cs, ∀ c ∈ w, c ∉ misfits) →
      ∃ u : Uri, u.text.toList = fileText cs := by
    intro cs h
    exact (exists_text_eq_iff _).mpr ((exists_parse_fileText_iff cs).mpr h)
  obtain ⟨u, hu⟩ := huri ["a".toList, "b c".toList] (by simp [misfits])
  obtain ⟨v, hv⟩ := huri ["a".toList, "b c".toList] (by simp [misfits])
  obtain ⟨w, hw⟩ := huri ["a".toList, "b%20c".toList] (by simp [misfits])
  have hp : ¬"://".toList <:+: "./a//b c/".toList := Text.not_infix_of_occurs (by decide)
  have hq : ¬"://".toList <:+: "/a/b c".toList := Text.not_infix_of_occurs (by decide)
  have hr : ¬"://".toList <:+: "a/b%20c".toList := Text.not_infix_of_occurs (by decide)
  have hpu : ofDocument ['/'] "./a//b c/" = .ok u :=
    (ofDocument_eq_ok_iff _ _ _).mpr (.inr ⟨hp, by decide, hu⟩)
  have hqv : ofDocument ['/'] "/a/b c" = .ok v :=
    (ofDocument_eq_ok_iff _ _ _).mpr (.inr ⟨hq, by decide, hv⟩)
  have hrw : ofDocument ['/'] "a/b%20c" = .ok w :=
    (ofDocument_eq_ok_iff _ _ _).mpr (.inr ⟨hr, by decide, hw⟩)
  obtain ⟨hsame, hoctets⟩ := ofDocument_eq_iff_components ['/'] _ _ u v hp hq hpu hqv
  obtain ⟨hdiffer, -⟩ := ofDocument_eq_iff_components ['/'] _ _ u w hp hr hpu hrw
  exact ⟨u, v, w, hpu, hqv, hrw, hsame.mpr (by decide), fun h => absurd (hdiffer.mp h) (by decide),
    hoctets⟩

/-! ## Schemes -/

/-- The scheme of files is spelled as a scheme. -/
theorem isScheme_file : IsScheme "file".toList :=
  ⟨'f', "ile".toList, rfl, by decide, by simp⟩

/-- A file's URI has a scheme, that of files. -/
theorem scheme?_of_fileText {u : Uri} {cs : List (List Char)} (h : u.text.toList = fileText cs) :
    u.scheme? = some "file" := by
  rw [scheme?_eq_some_iff]
  exact ⟨"//".toList ++ pathText cs, by rw [h, fileText_eq]; rfl, isScheme_file⟩

/-- **Which documents have a URI with a scheme.** A text that starts with a scheme and `://` is kept
and has that scheme. Any other one becomes a file's URI exactly if `://` does not occur in it. So
the URI lacks a scheme exactly if `://` occurs in the text while no scheme and colon stand at its
start. -/
theorem scheme?_ofDocument (workingDirectory : List Char) (path : String) (u : Uri)
    (h : ofDocument workingDirectory path = .ok u) :
    (∀ name rest, IsScheme name → path.toList = name ++ "://".toList ++ rest →
      u.text = path ∧ u.scheme? = some (String.ofList name)) ∧
    (¬StartsWithScheme "://".toList path.toList →
      ("file://".toList <+: u.text.toList ↔ ¬"://".toList <:+: path.toList)) ∧
    (u.scheme? = none ↔
      "://".toList <:+: path.toList ∧ ¬StartsWithScheme ":".toList path.toList) := by
  rcases (ofDocument_eq_ok_iff workingDirectory path u).mp h with
    ⟨hmark, htext⟩ | ⟨hplain, -, htext⟩
  · refine ⟨?_, ?_, ?_⟩
    · intro name rest hname hpath
      refine ⟨htext, (scheme?_eq_some_iff u _).mpr ⟨"//".toList ++ rest, ?_, ?_⟩⟩
      · rw [htext, hpath, String.toList_ofList (l := name), List.append_assoc]
        rfl
      · rw [String.toList_ofList]
        exact hname
    · intro hstart
      refine iff_of_false ?_ (not_not_intro hmark)
      rintro ⟨rest, hrest⟩
      rw [htext] at hrest
      exact hstart ⟨"file".toList, rest, isScheme_file, hrest.symm⟩
    · rw [scheme?_eq_none_iff, htext]
      exact (and_iff_right hmark).symm
  · refine ⟨?_, ?_, ?_⟩
    · intro name rest _ hpath
      exact absurd ⟨name, rest, hpath.symm⟩ hplain
    · intro _
      refine iff_of_true ?_ hplain
      rw [htext, fileText_eq]
      exact List.prefix_append _ _
    · rw [scheme?_of_fileText htext]
      exact iff_of_false (Option.some_ne_none _) fun hmark => hplain hmark.1

/-- A text with a scheme of letters and a sign, and a path with `://` in what would be a query. -/
theorem scheme?_ofDocument_kept :
    ∃ u v, ofDocument ['/'] "git+ssh://h/a" = .ok u ∧ u.text = "git+ssh://h/a" ∧
      u.scheme? = some "git+ssh" ∧
      ofDocument ['/'] "/a?b://c" = .ok v ∧ v.text = "/a?b://c" ∧ v.scheme? = none := by
  let u : Uri := ⟨"git+ssh://h/a", by decide +kernel⟩
  let v : Uri := ⟨"/a?b://c", by decide +kernel⟩
  have hmark : "://".toList <:+: "/a?b://c".toList := ⟨"/a?b".toList, "c".toList, rfl⟩
  have hu : ofDocument ['/'] "git+ssh://h/a" = .ok u :=
    (ofDocument_eq_ok_iff _ _ _).mpr (.inl ⟨⟨"git+ssh".toList, "h/a".toList, rfl⟩, rfl⟩)
  have hv : ofDocument ['/'] "/a?b://c" = .ok v :=
    (ofDocument_eq_ok_iff _ _ _).mpr (.inl ⟨hmark, rfl⟩)
  obtain ⟨hkept, -, -⟩ := scheme?_ofDocument ['/'] _ u hu
  obtain ⟨-, -, hnone⟩ := scheme?_ofDocument ['/'] _ v hv
  have hscheme : IsScheme "git+ssh".toList :=
    ⟨'g', "it+ssh".toList, rfl, by decide, by simp⟩
  exact ⟨u, v, hu, rfl, (hkept _ "h/a".toList hscheme rfl).2, hv, rfl,
    hnone.mpr ⟨hmark, not_startsWithScheme_slash _ _⟩⟩

/-- A path is taken for a URI, which has no scheme, since `://` occurs in it. -/
theorem ofDocument_without_scheme :
    ∃ u, ofDocument ['/'] "/a/://b" = .ok u ∧ u.text = "/a/://b" ∧ u.scheme? = none ∧
      ¬StartsWithScheme "://".toList "/a/://b".toList ∧ ¬"file://".toList <+: u.text.toList := by
  let u : Uri := ⟨"/a/://b", by decide +kernel⟩
  have hu : ofDocument ['/'] "/a/://b" = .ok u :=
    (ofDocument_eq_ok_iff _ _ _).mpr (.inl ⟨⟨"/a/".toList, "b".toList, rfl⟩, rfl⟩)
  have hslash : ∀ mark, ¬StartsWithScheme mark "/a/://b".toList := by
    intro mark
    exact not_startsWithScheme_slash mark "a/://b".toList
  exact ⟨u, hu, rfl, (scheme?_eq_none_iff u).mpr (hslash _), hslash _, by decide⟩

end QuickFix.Uri
