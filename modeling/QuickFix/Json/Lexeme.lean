import QuickFix.Json.Fault
import QuickFix.Numeral.Scale

/-!
# The lexemes of JSON

White space, literals, strings and numbers. Every reader takes the characters that remain and gives
back those behind the lexeme.
-/

set_option autoImplicit false

namespace QuickFix.Json

/-- JSON's white space. -/
def isSpace (c : Char) : Bool :=
  c == ' ' || c == '\n' || c == '\t' || c == '\r'

/-- The text behind leading white space. -/
def skipSpace (s : List Char) : List Char :=
  s.dropWhile isSpace

/-- The text behind the expected letters of a literal. -/
def literal : (expected s : List Char) → Except Fault (List Char)
  | [], s => .ok s
  | _ :: _, [] => .error (.here .endInValue [])
  | x :: expected, c :: s =>
    if c = x then literal expected s else .error (.next .expectedIdent (c :: s))

/-- The 16-bit unit that four hexadecimal digits stand for. -/
def unit? (a b c d : Char) : Option Nat := do
  let a ← Numeral.hexValue? a
  let b ← Numeral.hexValue? b
  let c ← Numeral.hexValue? c
  let d ← Numeral.hexValue? d
  some (((a * 16 + b) * 16 + c) * 16 + d)

/-- The fault of an escape whose next four octets are not hexadecimal digits. -/
def hexFault (s : List Char) : Fault :=
  if Text.octetCount s < 4 then .here .endInString []
  else .placed .invalidEscape (Text.octetCount s - 4)

/-- The first unit of a surrogate pair. -/
def isHigh (n : Nat) : Bool :=
  0xD800 ≤ n && n ≤ 0xDBFF

/-- The second unit of a surrogate pair. -/
def isLow (n : Nat) : Bool :=
  0xDC00 ≤ n && n ≤ 0xDFFF

/-- The character of a surrogate pair. -/
def paired (high low : Nat) : Char :=
  Char.ofNat ((high - 0xD800) * 0x400 + (low - 0xDC00) + 0x10000)

/-- The fault of a high surrogate that no escaped unit follows. -/
def pairFault : List Char → Fault
  | [] => .here .endInString []
  | '\\' :: [] => .here .endInString []
  | '\\' :: 'u' :: s => hexFault s
  | '\\' :: s => .next .unfinishedPair s
  | s => .next .unfinishedPair s

/-- The character that a letter behind a backslash stands for. -/
def unescaped? (c : Char) : Option Char :=
  if c = '"' || c = '\\' || c = '/' then some c
  else if c = 'b' then some (Char.ofNat 0x08)
  else if c = 'f' then some (Char.ofNat 0x0C)
  else if c = 'n' then some '\n'
  else if c = 'r' then some '\r'
  else if c = 't' then some '\t'
  else none

/-- A string continued: `c` stands before what was read. -/
def push (c : Char) (r : Except Fault (List Char × List Char)) :
    Except Fault (List Char × List Char) :=
  match r with
  | .ok (cs, rest) => .ok (c :: cs, rest)
  | .error f => .error f

/-- The characters of a string behind its opening quote. -/
def stringBody : Reader (List Char)
  | [] => .error (.here .endInString [])
  | c :: s =>
    if c = '"' then .ok ([], s)
    else if c = '\\' then
      match s with
      | [] => .error (.here .endInString [])
      | e :: s₁ =>
        if e = 'u' then
          match s₁ with
          | h₁ :: h₂ :: h₃ :: h₄ :: s₂ =>
            match unit? h₁ h₂ h₃ h₄ with
            | none => .error (hexFault s₁)
            | some n =>
              if isLow n then .error (.here .loneSurrogate s₂)
              else if isHigh n then
                match s₂ with
                | b :: u :: l₁ :: l₂ :: l₃ :: l₄ :: s₃ =>
                  if b = '\\' && u = 'u' then
                    match unit? l₁ l₂ l₃ l₄ with
                    | none => .error (hexFault (l₁ :: l₂ :: l₃ :: l₄ :: s₃))
                    | some m =>
                      if isLow m then push (paired n m) (stringBody s₃)
                      else .error (.here .loneSurrogate s₃)
                  else .error (pairFault s₂)
                | _ => .error (pairFault s₂)
              else push (Char.ofNat n) (stringBody s₂)
          | _ => .error (hexFault s₁)
        else
          match unescaped? e with
          | some x => push x (stringBody s₁)
          | none => .error (.next .invalidEscape s)
    else if c.toNat < 0x20 then .error (.next .controlCharacter (c :: s))
    else push c (stringBody s)

/-- The digits at the start of a text taken into a significand while it fits 64 bits. -/
def absorb : Nat → List Char → Nat × List Char
  | n, [] => (n, [])
  | n, c :: s =>
    let n' := n * 10 + Numeral.digitValue c
    if Numeral.isDigit c && n' < 0x10000000000000000 then absorb n' s else (n, c :: s)

/-- The digits of an exponent taken into a number while it is below `2^31`, or none of it once a
digit would go beyond. -/
def absorbExponent : Nat → List Char → Option Nat × List Char
  | n, [] => (some n, [])
  | n, c :: s =>
    if Numeral.isDigit c then
      let n' := n * 10 + Numeral.digitValue c
      if n' < 0x80000000 then absorbExponent n' s else (none, s)
    else (some n, c :: s)

/-- The double with a sign. -/
def signed (negative : Bool) (x : Float) : Number :=
  .float (if negative then -x else x)

/-- The double `significand · 10^exponent`, in front of `rest`. -/
def scaledNumber (negative : Bool) (significand : Nat) (exponent : Int) (rest : List Char) :
    Except Fault (Number × List Char) :=
  match Numeral.scaled? (UInt64.ofNat significand) exponent with
  | some x => .ok (signed negative x, rest)
  | none => .error (.here .numberOutOfRange rest)

/-- Whether the exponent behind a mark is negative, and its digits. -/
def exponentSign : List Char → Bool × List Char
  | '+' :: s => (false, s)
  | '-' :: s => (true, s)
  | s => (false, s)

/-- A number behind the mark of its exponent. -/
def exponentPart (negative : Bool) (significand : Nat) (exponent : Int) (s : List Char) :
    Except Fault (Number × List Char) :=
  let (down, ds) := exponentSign s
  match ds with
  | [] => .error (.here .endInValue [])
  | d :: _ =>
    if Numeral.isDigit d then
      match absorbExponent 0 ds with
      | (some e, rest) =>
        scaledNumber negative significand (if down then exponent - e else exponent + e) rest
      | (none, rest) =>
        if significand ≠ 0 && !down then .error (.here .numberOutOfRange rest)
        else .ok (signed negative 0, rest.dropWhile Numeral.isDigit)
    else .error (.next .invalidNumber ds)

/-- A number whose significand is read: an exponent may follow. -/
def maybeExponent (negative : Bool) (significand : Nat) (exponent : Int) :
    List Char → Except Fault (Number × List Char)
  | 'e' :: s => exponentPart negative significand exponent s
  | 'E' :: s => exponentPart negative significand exponent s
  | s => scaledNumber negative significand exponent s

/-- A number behind its decimal point. Digits that no longer fit the significand are dropped. -/
def fractionPart (negative : Bool) (significand : Nat) (exponent : Int) (s : List Char) :
    Except Fault (Number × List Char) :=
  match s with
  | [] => .error (.here .endInValue [])
  | d :: _ =>
    if Numeral.isDigit d then
      let (significand', rest) := absorb significand s
      let taken := s.length - rest.length
      maybeExponent negative significand' (exponent - taken) (rest.dropWhile Numeral.isDigit)
    else .error (.next .invalidNumber s)

/-- A whole number with a sign. Minus zero and what is below `-2^63` are doubles. -/
def wholeNumber (negative : Bool) (n : Nat) : Number :=
  if !negative then .natural (UInt64.ofNat n)
  else if n = 0 || 0x8000000000000000 < n then signed true (UInt64.ofNat n).toFloat
  else .belowZero (n - 1)

/-- A number behind the digits of its whole part; `n` holds those that fit 64 bits and `dropped`
more were left out. -/
def wholePart (negative : Bool) (n dropped : Nat) :
    List Char → Except Fault (Number × List Char)
  | '.' :: s => fractionPart negative n dropped s
  | s =>
    if dropped = 0 then
      match s with
      | 'e' :: t => exponentPart negative n 0 t
      | 'E' :: t => exponentPart negative n 0 t
      | _ => .ok (wholeNumber negative n, s)
    else maybeExponent negative n dropped s

/-- A number behind its sign. -/
def numberBody (negative : Bool) (s : List Char) : Except Fault (Number × List Char) :=
  match s with
  | [] => .error (.here .endInValue [])
  | c :: t =>
    if c = '0' then
      match t with
      | d :: _ =>
        if Numeral.isDigit d then .error (.next .invalidNumber t) else wholePart negative 0 0 t
      | [] => wholePart negative 0 0 []
    else if Numeral.isDigit c then
      let (n, rest) := absorb 0 s
      let dropped := rest.takeWhile Numeral.isDigit
      wholePart negative n dropped.length (rest.dropWhile Numeral.isDigit)
    else .error (.next .invalidNumber s)

end QuickFix.Json
