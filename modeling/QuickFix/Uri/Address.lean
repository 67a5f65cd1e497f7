import QuickFix.Numeral.Natural
import QuickFix.Text.Match
import QuickFix.Text.Pieces
import QuickFix.Text.Quoted

/-!
# Internet addresses

The dotted form of four octets, and the form of eight 16-bit groups in hexadecimal, where `::`
stands for one or more groups of zeros and the last two groups may be written in dotted form.
-/

set_option autoImplicit false

namespace QuickFix.Uri

/-- A hexadecimal digit. -/
def isHex (c : Char) : Bool :=
  Numeral.isDigit c || ('a' ≤ c && c ≤ 'f') || ('A' ≤ c && c ≤ 'F')

/-- The value of a hexadecimal digit. -/
def hexValue (c : Char) : Nat :=
  if Numeral.isDigit c then c.toNat - '0'.toNat
  else if 'a' ≤ c then c.toNat - 'a'.toNat + 10
  else c.toNat - 'A'.toNat + 10

/-- An octet from 0 to 255, without leading zeros. -/
def octet? (s : List Char) : Option Nat :=
  if s.isEmpty || 3 < s.length || !s.all Numeral.isDigit then none
  else if 1 < s.length && s.head? == some '0' then none
  else if Numeral.value s < 256 then some (Numeral.value s) else none

/-- The four octets of a dotted address. -/
def dotted? (s : List Char) : Option (List Nat) := do
  let octets ← (Text.pieces (· == '.') s).mapM octet?
  if octets.length = 4 then some octets else none

/-- A group of one to four hexadecimal digits. -/
def group? (s : List Char) : Option Nat :=
  if s.isEmpty || 4 < s.length || !s.all isHex then none
  else some (s.foldl (fun n c => n * 16 + hexValue c) 0)

/-- The groups of a part of an address that holds no `::`. If `tail` is set, its end is the end of
the address and may be dotted. -/
def groups? (tail : Bool) (s : List Char) : Option (List Nat) :=
  if s.isEmpty then some []
  else
    let ps := Text.pieces (· == ':') s
    match dotted? (ps.getLast?.getD []) with
    | some [a, b, c, d] =>
      if tail then do
        let front ← ps.dropLast.mapM group?
        some (front ++ [a * 256 + b, c * 256 + d])
      else none
    | _ => ps.mapM group?

/-- The texts before and after the first `::`. -/
def cutDouble? : List Char → Option (List Char × List Char)
  | ':' :: ':' :: s => some ([], s)
  | c :: s => (cutDouble? s).map fun r => (c :: r.1, r.2)
  | [] => none

/-- The eight groups of an address. -/
def eightGroups? (s : List Char) : Option (List Nat) :=
  match cutDouble? s with
  | none => do
    let groups ← groups? true s
    if groups.length = 8 then some groups else none
  | some (front, back) => do
    let front ← groups? false front
    let back ← groups? true back
    let zeros := 8 - (front.length + back.length)
    if 0 < zeros then some (front ++ List.replicate zeros 0 ++ back) else none

/-- Four octets in dotted form. -/
def writeDotted (octets : List Nat) : List Char :=
  List.intercalate ['.'] (octets.map Numeral.digits)

/-- Groups in hexadecimal, with colons between. -/
def writeGroups (groups : List Nat) : List Char :=
  List.intercalate [':'] (groups.map Text.hexDigits)

/-- Start and length of the first longest run of zero groups; `place` is that of
the list's head. -/
def zeroRun : (place : Nat) → List Nat → Nat × Nat
  | _, [] => (0, 0)
  | n, g :: gs =>
    let here := ((g :: gs).takeWhile (· == 0)).length
    let later := zeroRun (n + 1) gs
    if later.2 ≤ here then (n, here) else later

/-- Eight groups as text: an address that embeds a dotted one shows it, and the first longest run of
two or more zero groups is left out. -/
def writeEightGroups (groups : List Nat) : List Char :=
  match groups with
  | [0, 0, 0, 0, 0, 0xFFFF, g, h] =>
    "::ffff:".toList ++ writeDotted [g / 256, g % 256, h / 256, h % 256]
  | _ =>
    let (start, length) := zeroRun 0 groups
    if 1 < length then
      writeGroups (groups.take start) ++ [':', ':'] ++ writeGroups (groups.drop (start + length))
    else writeGroups groups

end QuickFix.Uri
