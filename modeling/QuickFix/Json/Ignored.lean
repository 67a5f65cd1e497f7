import QuickFix.Json.Lexeme

/-!
# Values that are passed over

A member that nobody asks for is only checked for its form: no character is decoded, no number is
worked out, and containers may be nested to any depth. The containers that are open are kept in a
list, innermost first.
-/

set_option autoImplicit false

namespace QuickFix.Json

/-- The text behind a string's closing quote, from behind its opening one. -/
def skipString : List Char → Except Fault (List Char)
  | [] => .error (.here .endInString [])
  | c :: s =>
    if c = '"' then .ok s
    else if c = '\\' then
      match s with
      | [] => .error (.here .endInString [])
      | e :: s₁ =>
        if e = 'u' then
          match s₁ with
          | h₁ :: h₂ :: h₃ :: h₄ :: s₂ =>
            match unit? h₁ h₂ h₃ h₄ with
            | none => .error (hexFault s₁)
            | some _ => skipString s₂
          | _ => .error (hexFault s₁)
        else
          match unescaped? e with
          | some _ => skipString s₁
          | none => .error (.next .invalidEscape s)
    else if c.toNat < 0x20 then .error (.here .controlCharacter (c :: s))
    else skipString s

/-- The text behind an exponent, from behind its mark. -/
def skipExponent (s : List Char) : Except Fault (List Char) :=
  let (_, ds) := exponentSign s
  match ds with
  | [] => .error (.here .invalidNumber [])
  | d :: rest =>
    if Numeral.isDigit d then .ok (rest.dropWhile Numeral.isDigit)
    else .error (.next .invalidNumber ds)

/-- The text behind an exponent that may follow. -/
def skipMaybeExponent : List Char → Except Fault (List Char)
  | 'e' :: s => skipExponent s
  | 'E' :: s => skipExponent s
  | s => .ok s

/-- The text behind the part of a number that follows its whole part. -/
def skipFraction : List Char → Except Fault (List Char)
  | '.' :: s =>
    match s with
    | [] => .error (.here .invalidNumber [])
    | d :: _ =>
      if Numeral.isDigit d then skipMaybeExponent (s.dropWhile Numeral.isDigit)
      else .error (.next .invalidNumber s)
  | s => skipMaybeExponent s

/-- The text behind a number, from behind its sign. -/
def skipNumber : List Char → Except Fault (List Char)
  | [] => .error (.here .invalidNumber [])
  | c :: s =>
    if c = '0' then
      match s with
      | d :: _ => if Numeral.isDigit d then .error (.next .invalidNumber s) else skipFraction s
      | [] => .ok []
    else if Numeral.isDigit c then skipFraction (s.dropWhile Numeral.isDigit)
    else .error (.next .invalidNumber (c :: s))

/-- A container that is open. -/
inductive Frame
  | list
  | object

/-- The character that closes the container. -/
def Frame.close : Frame → Char
  | .list => ']'
  | .object => '}'

/-- The fault of a text that ends inside the container. -/
def Frame.ended : Frame → Cause
  | .list => .endInList
  | .object => .endInObject

/-- The fault of a character that neither goes on with the container nor closes it. -/
def Frame.expectedEnd : Frame → Cause
  | .list => .expectedListEnd
  | .object => .expectedObjectEnd

/-- What follows a complete value: the containers it ends are closed. The containers still open are
given back with the text behind the comma that calls for another value; none is open when the whole
value is complete. -/
def skipEnds : List Frame → List Char → Except Fault (List Frame × List Char)
  | [], s => .ok ([], s)
  | f :: fs, s =>
    match skipSpace s with
    | [] => .error (.here f.ended [])
    | c :: t =>
      if c = ',' then .ok (f :: fs, t)
      else if c = f.close then skipEnds fs t
      else .error (.next f.expectedEnd (c :: t))

/-- What follows an opening bracket: the container may end at once. -/
def skipOpened (f : Frame) (fs : List Frame) (s : List Char) :
    Except Fault (List Frame × List Char) :=
  match skipSpace s with
  | [] => .error (.here f.ended [])
  | c :: t => if c = f.close then skipEnds fs t else .ok (f :: fs, c :: t)

/-- The text behind a key and its colon, when the innermost container wants a key. -/
def skipKey : List Frame → List Char → Except Fault (List Char)
  | .object :: _, s =>
    match skipSpace s with
    | [] => .error (.here .endInObject [])
    | '"' :: t => do
      let r ← skipString t
      match skipSpace r with
      | [] => .error (.here .endInObject [])
      | ':' :: u => .ok u
      | u => .error (.next .expectedColon u)
    | t => .error (.next .keyNotString t)
  | _, s => .ok s

/-- One value's first lexeme, with the containers it opens and closes. -/
def skipLexeme (fs : List Frame) (s : List Char) : Except Fault (List Frame × List Char) :=
  match skipSpace s with
  | [] => .error (.here .endInValue [])
  | c :: t => do
    if c = '[' then skipOpened .list fs t
    else if c = '{' then skipOpened .object fs t
    else if c = 'n' then skipEnds fs (← literal ['u', 'l', 'l'] t)
    else if c = 't' then skipEnds fs (← literal ['r', 'u', 'e'] t)
    else if c = 'f' then skipEnds fs (← literal ['a', 'l', 's', 'e'] t)
    else if c = '-' then skipEnds fs (← skipNumber t)
    else if Numeral.isDigit c then skipEnds fs (← skipNumber (c :: t))
    else if c = '"' then skipEnds fs (← skipString t)
    else .error (.next .expectedValue (c :: t))

/-- The text behind a value inside open containers, and behind these. Every round takes at least one
character, so the length of the text bounds the rounds. -/
def skipWithin : (rounds : Nat) → List Frame → List Char → Except Fault (List Char)
  | 0, _, _ => .error (.here .endInValue [])
  | rounds + 1, fs, s => do
    match ← skipLexeme fs s with
    | ([], rest) => .ok rest
    | (fs', rest) => skipWithin rounds fs' (← skipKey fs' rest)

/-- The text behind a value that is passed over. -/
def skipValue (rounds : Nat) (s : List Char) : Except Fault (List Char) :=
  skipWithin rounds [] s

end QuickFix.Json
