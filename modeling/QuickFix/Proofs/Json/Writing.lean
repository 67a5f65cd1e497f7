import Mathlib.Data.List.Basic
import QuickFix.Json.Lexeme

/-!
# The text of a written value

Writing goes down into a value with one function for values and two for what follows the first item
of a container. Here a container is written in one piece: `enclosed` puts texts between brackets,
and by `write_array` and `write_object` a container is the enclosed texts of its items or members.
`Json.induct` is the induction that goes with it.

A layout is `Spaced` if it adds white space only, as both layouts do. Whatever is said about written
values in the following files is said for all such layouts at once.
-/

set_option autoImplicit false

namespace QuickFix.Json

/-- A statement about all values, from the values inside containers on. -/
theorem induct {motive : Json → Prop} (null : motive .null) (bool : ∀ b, motive (.bool b))
    (number : ∀ n, motive (.number n)) (string : ∀ s, motive (.string s))
    (array : ∀ vs, (∀ v ∈ vs, motive v) → motive (.array vs))
    (object : ∀ ms, (∀ m ∈ ms, motive m.2) → motive (.object ms)) (v : Json) : motive v :=
  @Json.rec motive (fun vs => ∀ v ∈ vs, motive v) (fun ms => ∀ m ∈ ms, motive m.2)
    (fun m => motive m.2) null bool number string array object
    (by simp) (fun _ _ hv hvs => List.forall_mem_cons.mpr ⟨hv, hvs⟩)
    (by simp) (fun _ _ hm hms => List.forall_mem_cons.mpr ⟨hm, hms⟩)
    (fun _ _ hv => hv) v

/-! ## Containers in one piece -/

/-- What stands behind the opening bracket of a container: texts with commas between them, `inner`
before each text and `outer` before the closing bracket. -/
def enclosed (inner outer : List Char) (closing : Char) : List (List Char) → List Char
  | [] => [closing]
  | t :: ts => inner ++ t ++ ts.flatMap (fun t => ',' :: inner ++ t) ++ outer ++ [closing]

/-- The text of an object's member. -/
def memberText (colon : List Char) (key : String) (value : List Char) : List Char :=
  writeString key ++ colon ++ value

/-- The items behind the first are written with a comma and a line break in front of each. -/
theorem writeItems_eq_flatMap (l : Layout) (depth : Nat) (vs : List Json) :
    writeItems l depth vs =
      (vs.map (write l depth)).flatMap (fun t => ',' :: l.lineBreak depth ++ t) := by
  induction vs with
  | nil => rw [writeItems, List.map_nil, List.flatMap_nil]
  | cons v vs ih => rw [writeItems, ih, List.map_cons, List.flatMap_cons]

/-- The members behind the first are written with a comma and a line break in front of each. -/
theorem writeMembers_eq_flatMap (l : Layout) (depth : Nat) (ms : List (String × Json)) :
    writeMembers l depth ms =
      (ms.map fun m => memberText l.colon m.1 (write l depth m.2)).flatMap
        (fun t => ',' :: l.lineBreak depth ++ t) := by
  induction ms with
  | nil => rw [writeMembers, List.map_nil, List.flatMap_nil]
  | cons m ms ih =>
      obtain ⟨k, v⟩ := m
      rw [writeMembers, ih, List.map_cons, List.flatMap_cons, memberText]
      simp only [List.append_assoc, List.cons_append]

/-- An array is written as its items between brackets. -/
theorem write_array (l : Layout) (depth : Nat) (vs : List Json) :
    write l depth (.array vs) = '[' :: enclosed (l.lineBreak (depth + 1)) (l.lineBreak depth) ']'
      (vs.map (write l (depth + 1))) := by
  cases vs with
  | nil => rw [write, List.map_nil, enclosed]
  | cons v vs => rw [write, writeItems_eq_flatMap, List.map_cons, enclosed]; simp

/-- An object is written as its members between braces. -/
theorem write_object (l : Layout) (depth : Nat) (ms : List (String × Json)) :
    write l depth (.object ms) = '{' :: enclosed (l.lineBreak (depth + 1)) (l.lineBreak depth) '}'
      (ms.map fun m => memberText l.colon m.1 (write l (depth + 1) m.2)) := by
  cases ms with
  | nil => rw [write, List.map_nil, enclosed]
  | cons m ms =>
      obtain ⟨k, v⟩ := m
      rw [write, writeMembers_eq_flatMap, List.map_cons, enclosed, memberText]
      simp

/-! ## Layouts of white space -/

/-- A text of white space only. -/
def Gap (s : List Char) : Prop :=
  ∀ c ∈ s, isSpace c = true

/-- A layout that adds nothing but white space. -/
structure Layout.Spaced (l : Layout) : Prop where
  gap_lineBreak : ∀ depth, Gap (l.lineBreak depth)
  exists_colon : ∃ gap, l.colon = ':' :: gap ∧ Gap gap

/-- Nothing is a gap too. -/
theorem Gap.nil : Gap [] := by
  intro c hc
  cases hc

/-- The compact layout puts nothing between lexemes. -/
theorem Layout.spaced_compact : Layout.compact.Spaced :=
  ⟨fun _ => Gap.nil, [], rfl, Gap.nil⟩

/-- The indented layout puts only white space between lexemes. -/
theorem Layout.spaced_indented : Layout.indented.Spaced := by
  refine ⟨?_, [' '], rfl, by simp [Gap, isSpace]⟩
  intro depth c hc
  rcases List.mem_cons.mp hc with rfl | hc
  · rfl
  · rw [List.eq_of_mem_replicate hc]
    rfl

end QuickFix.Json
