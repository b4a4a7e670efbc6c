import Xref.Json.Token

/-!
# From text to tokens

Input is a list of characters in which `none` stands for a byte that is part of no character. Such
bytes can only stand in string literals, which then spell no text.

Each scanner gives what it read and what comes after it, and never gives back more than it was given
(`next?_length_le` and the lemmas before it), so `lex?` comes to an end.
-/

namespace Xref.Json

/-- Characters to be read; `none` is a byte that is part of no character. -/
abbrev Input := List (Option Char)

namespace Input

/-- The characters of a text. -/
def ofString (s : String) : Input :=
  s.toList.map some

/-- The characters that bytes spell from the given place on. -/
def ofBytesFrom (bytes : ByteArray) (i : Nat) : Input :=
  if i < bytes.size then
    match bytes.utf8DecodeChar? i with
    | some c => some c :: ofBytesFrom bytes (i + c.utf8Size)
    | none => none :: ofBytesFrom bytes (i + 1)
  else []
termination_by bytes.size - i
decreasing_by
  · have := c.utf8Size_pos; omega
  · omega

/-- The characters that bytes spell. -/
def ofBytes (bytes : ByteArray) : Input :=
  ofBytesFrom bytes 0

end Input

/-! ## String literals -/

/-- What stands between the quotes of a literal. -/
inductive Piece where
  /-- A character, as it is or as a short escape. -/
  | char (c : Char)
  /-- Sixteen bits, as an escape with four digits. -/
  | unit (value : Nat)
  /-- A byte that is part of no character. -/
  | stray

/-- The value of a hexadecimal digit, in either case. -/
def hexValue? (c : Char) : Option Nat :=
  if '0' ≤ c ∧ c ≤ '9' then some (c.toNat - 48)
  else if 'a' ≤ c ∧ c ≤ 'f' then some (c.toNat - 87)
  else if 'A' ≤ c ∧ c ≤ 'F' then some (c.toNat - 55)
  else none

/-- The value of four hexadecimal digits. -/
def unitValue? (a b c d : Char) : Option Nat := do
  let a ← hexValue? a
  let b ← hexValue? b
  let c ← hexValue? c
  let d ← hexValue? d
  return ((a * 16 + b) * 16 + c) * 16 + d

/-- The pieces of a literal up to its closing quote. Control characters must be escaped. -/
def pieces? : Input → Option (List Piece × Input)
  | [] => none
  | none :: rest => do
    let (ps, rest) ← pieces? rest
    return (.stray :: ps, rest)
  | some c :: rest =>
    if c = '"' then some ([], rest)
    else if c = '\\' then
      match rest with
      | some 'u' :: some h₁ :: some h₂ :: some h₃ :: some h₄ :: rest => do
        let value ← unitValue? h₁ h₂ h₃ h₄
        let (ps, rest) ← pieces? rest
        return (.unit value :: ps, rest)
      | some e :: rest => do
        let c ← unescape? e
        let (ps, rest) ← pieces? rest
        return (.char c :: ps, rest)
      | _ => none
    else if c.toNat < 32 then none
    else do
      let (ps, rest) ← pieces? rest
      return (.char c :: ps, rest)

/-- The text that pieces spell. A leading surrogate counts with the trailing one after it. -/
def spell? : List Piece → Option (List Char)
  | [] => some []
  | .char c :: rest => (spell? rest).map (c :: ·)
  | .stray :: _ => none
  | .unit u :: rest =>
    if u < 0xD800 ∨ 0xDFFF < u then (spell? rest).map (Char.ofNat u :: ·)
    else if 0xDC00 ≤ u then none
    else
      match rest with
      | .unit v :: rest =>
        if 0xDC00 ≤ v ∧ v ≤ 0xDFFF then
          (spell? rest).map (Char.ofNat (0x10000 + (u - 0xD800) * 0x400 + (v - 0xDC00)) :: ·)
        else none
      | _ => none

/-! ## Numbers -/

/-- The item is a decimal digit. -/
def isDigit (item : Option Char) : Bool :=
  item.any Char.isDigit

/-- The digits at the front, and what comes after them. -/
def leadingDigits (input : Input) : List Char × Input :=
  ((input.takeWhile isDigit).filterMap id, input.dropWhile isDigit)

/-- The number that digits stand for. -/
def digitsValue (digits : List Char) : Nat :=
  digits.foldl (fun n c => n * 10 + (c.toNat - 48)) 0

/-- A decimal point with its digits, if there is one. -/
def fraction? : Input → Option (List Char × Input)
  | some '.' :: rest =>
    match leadingDigits rest with
    | ([], _) => none
    | (digits, rest) => some ('.' :: digits, rest)
  | input => some ([], input)

/-- A sign at the front. -/
def leadingSign : Input → List Char × Input
  | some c :: rest => if c = '+' ∨ c = '-' then ([c], rest) else ([], some c :: rest)
  | input => ([], input)

/-- An exponent, if there is one. -/
def exponent? : Input → Option (List Char × Input)
  | some c :: rest =>
    if c = 'e' ∨ c = 'E' then
      match leadingDigits (leadingSign rest).2 with
      | ([], _) => none
      | (digits, after) => some (c :: (leadingSign rest).1 ++ digits, after)
    else some ([], some c :: rest)
  | input => some ([], input)

/-- The digits after the first one of a whole number. Only zero itself begins with a zero. -/
def moreDigits (first : Char) (rest : Input) : List Char × Input :=
  if first = '0' then ([], rest) else leadingDigits rest

/-- The token of a number with the given sign, whole part and remainder. -/
def numeral (sign whole tail : List Char) : Token :=
  if sign.isEmpty && tail.isEmpty then .natural (digitsValue whole)
  else .number (String.ofList (sign ++ whole ++ tail))

/-- A number from its first digit on. -/
def number? (sign : List Char) (first : Char) (rest : Input) : Option (Token × Input) := do
  let whole := moreDigits first rest
  let frac ← fraction? whole.2
  let exp ← exponent? frac.2
  return (numeral sign (first :: whole.1) (frac.1 ++ exp.1), exp.2)

/-! ## Tokens -/

/-- The blanks that may stand between tokens. -/
def isBlank (c : Char) : Bool :=
  c = ' ' || c = '\t' || c = '\n' || c = '\r'

/-- The token that one character makes. -/
def punctuation? (c : Char) : Option Token :=
  if c = '[' then some .openBracket
  else if c = ']' then some .closeBracket
  else if c = '\x7b' then some .openBrace
  else if c = '\x7d' then some .closeBrace
  else if c = ',' then some .comma
  else if c = ':' then some .colon
  else none

/-- The token `t`, where the rest of its word follows. -/
def expect? (word : String) (t : Token) (rest : Input) : Option (Token × Input) :=
  if (Input.ofString word).isPrefixOf rest then some (t, rest.drop word.length) else none

/-- A number after its minus sign. -/
def negative? : Input → Option (Token × Input)
  | some d :: rest => if d.isDigit then number? ['-'] d rest else none
  | _ => none

/-- A literal after its opening quote. -/
def literal? (rest : Input) : Option (Token × Input) :=
  (pieces? rest).map fun read => (.string ((spell? read.1).map String.ofList), read.2)

/-- The token that begins with the character `c`. -/
def next? (c : Char) (rest : Input) : Option (Token × Input) :=
  match punctuation? c with
  | some t => some (t, rest)
  | none =>
    if c = '"' then literal? rest
    else if c.isDigit then number? [] c rest
    else if c = '-' then negative? rest
    else if c = 'n' then expect? "ull" .null rest
    else if c = 't' then expect? "rue" (.bool true) rest
    else if c = 'f' then expect? "alse" (.bool false) rest
    else none

/-! ## Scanners give back no more than they were given -/

theorem pieces?_length_le {input rest : Input} {ps : List Piece}
    (h : pieces? input = some (ps, rest)) : rest.length ≤ input.length := by
  fun_induction pieces? input generalizing ps rest <;>
    simp_all [Option.bind_eq_some_iff] <;> grind

theorem leadingDigits_length_le (input : Input) :
    (leadingDigits input).2.length ≤ input.length :=
  (List.dropWhile_sublist _).length_le

theorem fraction?_length_le {input rest : Input} {digits : List Char}
    (h : fraction? input = some (digits, rest)) : rest.length ≤ input.length := by
  fun_cases fraction? input with
  | case1 => simp_all [fraction?]
  | case2 after digits' rest' _ hdigits =>
    have := leadingDigits_length_le after
    simp_all [fraction?]
    omega
  | case3 => simp_all [fraction?]

theorem leadingSign_length_le (input : Input) : (leadingSign input).2.length ≤ input.length := by
  fun_cases leadingSign input <;> simp_all

theorem exponent?_length_le {input rest : Input} {digits : List Char}
    (h : exponent? input = some (digits, rest)) : rest.length ≤ input.length := by
  fun_cases exponent? input with
  | case1 => simp_all [exponent?]
  | case2 c after _ digits' rest' _ hdigits =>
    have := leadingDigits_length_le (leadingSign after).2
    have := leadingSign_length_le after
    simp_all [exponent?]
    omega
  | case3 => simp_all [exponent?]
  | case4 => simp_all [exponent?]

theorem moreDigits_length_le (first : Char) (rest : Input) :
    (moreDigits first rest).2.length ≤ rest.length := by
  unfold moreDigits
  split
  · exact Nat.le_refl _
  · exact leadingDigits_length_le rest

theorem number?_length_le {sign : List Char} {first : Char} {input rest : Input} {t : Token}
    (h : number? sign first input = some (t, rest)) : rest.length ≤ input.length := by
  simp only [number?, Option.bind_eq_bind, Option.bind_eq_some_iff, Option.pure_def,
    Option.some.injEq, Prod.mk.injEq] at h
  obtain ⟨frac, hfrac, exp, hexp, -, rfl⟩ := h
  have := moreDigits_length_le first input
  have := fraction?_length_le hfrac
  have := exponent?_length_le hexp
  omega

theorem expect?_length_le {word : String} {input rest : Input} {t u : Token}
    (h : expect? word t input = some (u, rest)) : rest.length ≤ input.length := by
  unfold expect? at h
  split at h
  · cases h; simp
  · cases h

theorem negative?_length_le {input rest : Input} {t : Token}
    (h : negative? input = some (t, rest)) : rest.length ≤ input.length := by
  unfold negative? at h
  split at h
  · split at h
    · exact Nat.le_succ_of_le (number?_length_le h)
    · cases h
  · cases h

theorem literal?_length_le {input rest : Input} {t : Token}
    (h : literal? input = some (t, rest)) : rest.length ≤ input.length := by
  obtain ⟨⟨ps, after⟩, hps, heq⟩ := Option.map_eq_some_iff.mp h
  cases heq
  exact pieces?_length_le hps

theorem next?_length_le {c : Char} {input rest : Input} {t : Token}
    (h : next? c input = some (t, rest)) : rest.length ≤ input.length := by
  unfold next? at h
  split at h
  · cases h; exact Nat.le_refl _
  · split at h
    · exact literal?_length_le h
    split at h
    · exact number?_length_le h
    split at h
    · exact negative?_length_le h
    repeat' split at h
    · exact expect?_length_le h
    · exact expect?_length_le h
    · exact expect?_length_le h
    · cases h

/-- The tokens of a text, unless there is something in it that is no token. -/
def lex? : Input → Option (List Token)
  | [] => some []
  | none :: _ => none
  | some c :: rest =>
    if isBlank c then lex? rest
    else
      match _h : next? c rest with
      | none => none
      | some (t, after) => (lex? after).map (t :: ·)
termination_by input => input.length
decreasing_by
  · simp
  · have := next?_length_le _h
    simp only [List.length_cons]
    omega

end Xref.Json
