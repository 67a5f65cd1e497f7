import QuickFix.Proofs.Octets
import QuickFix.Proofs.Uri.Reference
import QuickFix.Uri.Path

/-!
# Percent-encoding of path components

Encoding a component loses nothing: its octets come back when percent signs are read
(`percentDecoded_encodedComponent_append`). It does not make every component fit for a path,
though. Four characters are left as they are and have no place in a path, so that an encoded text
is a run of path characters up to the first of these: `scanned_encodedComponent` where there is
none, `blocked_encodedComponent` where there is one.
-/

set_option autoImplicit false

namespace QuickFix.Uri

/-! ## Decoding -/

/-- The octets that a text stands for. A percent sign and two hexadecimal digits are one octet; any
other character stands for the octets that write it. -/
def percentDecoded : List Char → List UInt8
  | [] => []
  | c :: s =>
    if c = '%' then
      match s with
      | a :: b :: t =>
        if isHex a && isHex b then UInt8.ofNat (hexValue a * 16 + hexValue b) :: percentDecoded t
        else 0x25 :: percentDecoded (a :: b :: t)
      | t => 0x25 :: percentDecoded t
    else String.utf8EncodeChar c ++ percentDecoded s

/-- A number below sixteen is written as a hexadecimal digit. -/
theorem isHex_upperHex {n : Nat} (h : n < 16) : isHex (upperHex n) = true := by
  have hall : ∀ m < 16, isHex (upperHex m) = true := by decide
  exact hall n h

/-- The hexadecimal digit of a number has that number as its value. -/
theorem hexValue_upperHex {n : Nat} (h : n < 16) : hexValue (upperHex n) = n := by
  have hall : ∀ m < 16, hexValue (upperHex m) = m := by decide
  exact hall n h

/-- A character other than the percent sign stands for its own octets. -/
theorem percentDecoded_cons {c : Char} (h : c ≠ '%') (s : List Char) :
    percentDecoded (c :: s) = String.utf8EncodeChar c ++ percentDecoded s := by
  rw [percentDecoded.eq_def]
  exact if_neg h

/-- An encoded octet is decoded to itself. -/
theorem percentDecoded_percentEncoded_append (b : UInt8) (s : List Char) :
    percentDecoded (percentEncoded b ++ s) = b :: percentDecoded s := by
  have hbound : b.toNat < 256 := b.toNat_lt
  have hhigh : b.toNat / 16 < 16 := by omega
  have hlow : b.toNat % 16 < 16 := by omega
  have hvalue : b.toNat / 16 * 16 + b.toNat % 16 = b.toNat := by omega
  simp [percentEncoded, percentDecoded, isHex_upperHex hhigh, isHex_upperHex hlow,
    hexValue_upperHex hhigh, hexValue_upperHex hlow, hvalue]

/-- Percent-encoded octets decode to themselves. -/
theorem percentDecoded_flatMap_append (bs : List UInt8) (s : List Char) :
    percentDecoded (bs.flatMap percentEncoded ++ s) = bs ++ percentDecoded s := by
  induction bs with
  | nil => rfl
  | cons b bs ih =>
      rw [List.flatMap_cons, List.append_assoc, percentDecoded_percentEncoded_append, ih,
        List.cons_append]

/-- A component is encoded character by character. -/
theorem encodedComponent_cons (c : Char) (s : List Char) :
    encodedComponent (c :: s) =
      (if isEncoded c then (String.utf8EncodeChar c).flatMap percentEncoded else [c]) ++
        encodedComponent s :=
  List.flatMap_cons

/-- Decoding an encoded component gives its octets. -/
theorem percentDecoded_encodedComponent_append (s t : List Char) :
    percentDecoded (encodedComponent s ++ t) = Text.octets s ++ percentDecoded t := by
  induction s with
  | nil => rfl
  | cons c s ih =>
      have hoctets : Text.octets (c :: s) = String.utf8EncodeChar c ++ Text.octets s :=
        List.flatMap_cons
      rw [encodedComponent_cons, List.append_assoc, hoctets, List.append_assoc]
      by_cases hc : isEncoded c = true
      · rw [if_pos hc, percentDecoded_flatMap_append, ih]
      · have hpercent : c ≠ '%' := by
          rintro rfl
          exact hc rfl
        rw [if_neg hc, List.singleton_append, percentDecoded_cons hpercent, ih]

/-! ## Characters that do not fit -/

/-- The characters that are not encoded and that no path may hold. -/
def misfits : List Char :=
  ['[', ']', '^', '|']

/-- What is neither encoded nor a misfit may stand in a path. -/
theorem isPathChar_iff {c : Char} (h : isEncoded c = false) :
    isPathChar c = true ↔ c ∉ misfits := by
  have hascii : ∀ n < 0x7F, isEncoded (Char.ofNat n) = false →
      (isPathChar (Char.ofNat n) = true ↔ Char.ofNat n ∉ misfits) := by
    decide +kernel
  have hbound : c.toNat < 0x7F := by
    by_contra hbeyond
    have hge : 0x7F ≤ c.toNat := by omega
    simp [isEncoded, hge] at h
  have hc := hascii c.toNat hbound
  rw [Char.ofNat_toNat] at hc
  exact hc h

/-- A misfit stays as it is, and neither continues a path nor starts what may follow one. -/
theorem of_mem_misfits {c : Char} (h : c ∈ misfits) :
    isEncoded c = false ∧ isPathChar c = false ∧ c ≠ '%' ∧ c ≠ '?' ∧ c ≠ '#' := by
  simp only [misfits, List.mem_cons, List.not_mem_nil, or_false] at h
  rcases h with rfl | rfl | rfl | rfl
  · exact ⟨rfl, rfl, by decide, by decide, by decide⟩
  · exact ⟨rfl, rfl, by decide, by decide, by decide⟩
  · exact ⟨rfl, rfl, by decide, by decide, by decide⟩
  · exact ⟨rfl, rfl, by decide, by decide, by decide⟩

/-- Percent-encoded octets may stand in a run of any class. -/
theorem scanned_flatMap_percentEncoded (allowed : Char → Bool) (bs : List UInt8) :
    Scanned allowed (bs.flatMap percentEncoded) := by
  induction bs with
  | nil => exact .nil
  | cons b bs ih =>
      have hbound : b.toNat < 256 := b.toNat_lt
      exact .octet (isHex_upperHex (by omega)) (isHex_upperHex (by omega)) ih

/-- A character that is no misfit is encoded as something that may stand in a path. -/
theorem scanned_encoded_char {c : Char} (h : c ∉ misfits) :
    Scanned isPathChar
      (if isEncoded c then (String.utf8EncodeChar c).flatMap percentEncoded else [c]) := by
  split
  · exact scanned_flatMap_percentEncoded _ _
  · rename_i hc
    have hplain : isEncoded c = false := by simpa using hc
    have hpercent : c ≠ '%' := by
      rintro rfl
      cases hplain
    exact .char hpercent ((isPathChar_iff hplain).mpr h) .nil

/-- An encoded component without misfits is a run of path characters. -/
theorem scanned_encodedComponent {s : List Char} (h : ∀ c ∈ s, c ∉ misfits) :
    Scanned isPathChar (encodedComponent s) := by
  induction s with
  | nil => exact .nil
  | cons c s ih =>
      rw [encodedComponent_cons]
      have hrest := ih fun x hx => h x (List.mem_cons_of_mem c hx)
      exact (scanned_encoded_char (h c List.mem_cons_self)).append hrest

/-- A text in which a run of path characters breaks off at a misfit. -/
def Blocked (s : List Char) : Prop :=
  ∃ front c back, s = front ++ c :: back ∧ Scanned isPathChar front ∧ c ∈ misfits

/-- A run of path characters in front leaves a text blocked. -/
theorem Blocked.append_left {s t : List Char} (hs : Scanned isPathChar s) (ht : Blocked t) :
    Blocked (s ++ t) := by
  obtain ⟨front, c, back, rfl, hfront, hc⟩ := ht
  exact ⟨s ++ front, c, back, by rw [List.append_assoc], hs.append hfront, hc⟩

/-- Whatever follows, a blocked text stays blocked. -/
theorem Blocked.append_right {s : List Char} (hs : Blocked s) (t : List Char) :
    Blocked (s ++ t) := by
  obtain ⟨front, c, back, rfl, hfront, hc⟩ := hs
  exact ⟨front, c, back ++ t, by simp, hfront, hc⟩

/-- A misfit in a component is not encoded, and blocks it. -/
theorem blocked_encodedComponent {s : List Char} {c : Char} (hc : c ∈ s) (hmisfit : c ∈ misfits) :
    Blocked (encodedComponent s) := by
  induction s with
  | nil => cases hc
  | cons x s ih =>
      rw [encodedComponent_cons]
      by_cases hx : x ∈ misfits
      · rw [if_neg (by simp [(of_mem_misfits hx).1])]
        exact ⟨[], x, encodedComponent s, rfl, .nil, hx⟩
      · have hrest : c ∈ s := by
          rcases List.mem_cons.mp hc with rfl | hrest
          · exact absurd hmisfit hx
          · exact hrest
        exact (ih hrest).append_left (scanned_encoded_char hx)

end QuickFix.Uri
