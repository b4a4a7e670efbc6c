import Mathlib.Data.List.Chain
import Mathlib.Tactic.SplitIfs
import Xref.Json.Lexer

/-!
# Written tokens are read back

A token that is written out is read back as that token, whatever follows it (`Token.Legible`). Only
a number has to be set off: more digits, a point or an exponent after it would be read as part of
it. So tokens that are written one after the other are read back if no number is followed by
anything but punctuation (`lex?_written`).
-/

namespace Xref.Json

/-! ## Numbers -/

/-- The digits of a number do not begin with a zero, unless there is only one. -/
theorem head_toDigits_ne_zero {n : ℕ} (hn : 0 < n) {first : Char} {more : List Char}
    (h : Nat.toDigits 10 n = first :: more) : first ≠ '0' := by
  induction n using Nat.strongRecOn generalizing more with
  | ind n ih =>
    rw [Nat.toDigits_eq_if (by decide)] at h
    split at h
    · next hlt =>
      obtain ⟨rfl, -⟩ := List.cons.inj h
      have hall : ∀ m < 10, Nat.digitChar m = '0' → m = 0 := by decide
      exact fun hzero => hn.ne' (hall n hlt hzero)
    · next hge =>
      obtain ⟨d, ds, hds⟩ : ∃ d ds, Nat.toDigits 10 (n / 10) = d :: ds :=
        List.exists_cons_of_ne_nil Nat.toDigits_ne_nil
      rw [hds, List.cons_append] at h
      obtain ⟨rfl, -⟩ := List.cons.inj h
      exact ih (n / 10) (by omega) (by omega) hds

/-- Nothing at the front of the input can belong to a number before it. -/
def Input.EndsNumber (input : Input) : Prop :=
  ∀ c, input.head? = some (some c) → c.isDigit = false ∧ c ≠ '.' ∧ c ≠ 'e' ∧ c ≠ 'E'

/-- All digits at the front are taken, up to where the number ends. -/
theorem leadingDigits_append {digits : List Char} (hdigits : ∀ c ∈ digits, c.isDigit = true)
    {rest : Input} (hrest : rest.EndsNumber) :
    leadingDigits (digits.map some ++ rest) = (digits, rest) := by
  have hmap : ∀ item ∈ digits.map some, isDigit item = true := by
    intro item hitem
    obtain ⟨c, hc, rfl⟩ := List.mem_map.mp hitem
    exact hdigits c hc
  have hstop : rest.takeWhile isDigit = [] ∧ rest.dropWhile isDigit = rest := by
    cases rest with
    | nil => exact ⟨rfl, rfl⟩
    | cons item rest =>
      have hitem : isDigit item = false := by
        cases item with
        | none => rfl
        | some c => exact (hrest c rfl).1
      simp [hitem]
  unfold leadingDigits
  rw [List.takeWhile_append_of_pos hmap, List.dropWhile_append_of_pos hmap, hstop.1, hstop.2]
  simp

theorem fraction?_of_endsNumber {rest : Input} (h : rest.EndsNumber) :
    fraction? rest = some ([], rest) := by
  unfold fraction?
  split
  · exact absurd rfl (h '.' rfl).2.1
  · rfl

theorem exponent?_of_endsNumber {rest : Input} (h : rest.EndsNumber) :
    exponent? rest = some ([], rest) := by
  unfold exponent?
  split
  · next c rest =>
    obtain ⟨-, -, hlower, hupper⟩ := h c rfl
    rw [if_neg (by simp [hlower, hupper])]
  · rfl

/-- Digits stand for the number that they were made of. -/
theorem digitsValue_toDigits (n : ℕ) : digitsValue (Nat.toDigits 10 n) = n := by
  have hfold : ∀ (digits : List Char) (init : ℕ),
      digits.foldl (fun n c => n * 10 + (c.toNat - 48)) init = Nat.ofDigitChars 10 digits init := by
    intro digits init
    rw [Nat.ofDigitChars_eq_foldl]
    simp only [Nat.mul_comm]
    rfl
  rw [digitsValue, hfold, Nat.ofDigitChars_ten_toDigits]

/-- A number is read back, if nothing after it belongs to it. -/
theorem number?_toDigits {n : ℕ} {first : Char} {more : List Char}
    (h : Nat.toDigits 10 n = first :: more) {rest : Input} (hrest : rest.EndsNumber) :
    number? [] first (more.map some ++ rest) = some (.natural n, rest) := by
  have hdigits : ∀ c ∈ first :: more, c.isDigit = true := fun c hc =>
    Nat.isDigit_of_mem_toDigits (by decide) (by decide) (h ▸ hc)
  have hmore : moreDigits first (more.map some ++ rest) = (more, rest) := by
    unfold moreDigits
    rcases Nat.eq_zero_or_pos n with rfl | hn
    · rw [Nat.toDigits_zero] at h
      obtain ⟨rfl, rfl⟩ := List.cons.inj h
      rfl
    · rw [if_neg (head_toDigits_ne_zero hn h)]
      exact leadingDigits_append (fun c hc => hdigits c (List.mem_cons_of_mem _ hc)) hrest
  simp only [number?, hmore, fraction?_of_endsNumber hrest, Option.bind_eq_bind, Option.bind_some,
    exponent?_of_endsNumber hrest]
  show some (Token.natural (digitsValue (first :: more)), rest) = _
  rw [← h, digitsValue_toDigits]

/-! ## String literals -/

/-- A quote ends the pieces of a literal. -/
theorem pieces?_quote (rest : Input) : pieces? (some '"' :: rest) = some ([], rest) := by
  rw [pieces?.eq_def]
  exact if_pos rfl

/-- An escape with four digits is one piece. -/
theorem pieces?_unit {input rest : Input} {ps : List Piece} (h : pieces? input = some (ps, rest))
    {a b c d : Char} {n : ℕ} (hn : unitValue? a b c d = some n) :
    pieces? (some '\\' :: some 'u' :: some a :: some b :: some c :: some d :: input) =
      some (.unit n :: ps, rest) := by
  rw [pieces?.eq_def]
  simp only [if_neg (show '\\' ≠ '"' by decide), if_pos, hn, h]
  rfl

/-- Up to a closing quote the input spells the text `cs`, and `rest` comes after it. -/
def Spells (input : Input) (cs : List Char) (rest : Input) : Prop :=
  ∃ ps, pieces? input = some (ps, rest) ∧ spell? ps = some cs

namespace Spells

theorem close (rest : Input) : Spells (some '"' :: rest) [] rest :=
  ⟨[], pieces?_quote rest, rfl⟩

variable {input rest : Input} {cs : List Char}

/-- A character that stands for itself. -/
theorem plain (h : Spells input cs rest) {c : Char} (hquote : c ≠ '"') (hslash : c ≠ '\\')
    (hcontrol : ¬ c.toNat < 32) : Spells (some c :: input) (c :: cs) rest := by
  obtain ⟨ps, hps, hcs⟩ := h
  refine ⟨.char c :: ps, ?_, ?_⟩
  · rw [pieces?.eq_def]
    simp only [if_neg hquote, if_neg hslash, if_neg hcontrol, hps]
    rfl
  · rw [spell?, hcs]
    rfl

/-- A short escape. -/
theorem short (h : Spells input cs rest) {e c : Char} (he : unescape? e = some c) :
    Spells (some '\\' :: some e :: input) (c :: cs) rest := by
  obtain ⟨ps, hps, hcs⟩ := h
  have hu : e ≠ 'u' := by
    rintro rfl
    cases he
  refine ⟨.char c :: ps, ?_, ?_⟩
  · rw [pieces?.eq_def]
    simp only [if_neg (show '\\' ≠ '"' by decide), if_pos]
    split
    · next heq => exact absurd (Option.some.inj (List.cons.inj heq).1) hu
    · next heq =>
      obtain ⟨he', rfl⟩ := List.cons.inj heq
      rw [← Option.some.inj he', he, hps]
      rfl
    · next hne => exact absurd rfl (hne e input)
  · rw [spell?, hcs]
    rfl

/-- An escape with four digits. -/
theorem control (h : Spells input cs rest) {n : ℕ} (hn : n < 32) :
    Spells (some '\\' :: some 'u' :: some '0' :: some '0' :: some (hexDigit (n / 16)) ::
      some (hexDigit (n % 16)) :: input) (Char.ofNat n :: cs) rest := by
  obtain ⟨ps, hps, hcs⟩ := h
  have hunit : ∀ m < 32, unitValue? '0' '0' (hexDigit (m / 16)) (hexDigit (m % 16)) = some m := by
    decide
  refine ⟨.unit n :: ps, pieces?_unit hps (hunit n hn), ?_⟩
  rw [spell?.eq_def]
  simp only [if_pos (show n < 0xD800 ∨ 0xDFFF < n by omega), hcs]
  rfl

/-- Every character is read back as it was written. -/
theorem escape (h : Spells input cs rest) (c : Char) :
    Spells ((escape c).map some ++ input) (c :: cs) rest := by
  unfold Json.escape
  split_ifs with hquote hslash hb hf hn hr ht hcontrol
  · exact h.short (by rw [hquote]; rfl)
  · exact h.short (by rw [hslash]; rfl)
  · exact h.short (by rw [hb]; rfl)
  · exact h.short (by rw [hf]; rfl)
  · exact h.short (by rw [hn]; rfl)
  · exact h.short (by rw [hr]; rfl)
  · exact h.short (by rw [ht]; rfl)
  · have hchar := h.control hcontrol
    rwa [Char.ofNat_toNat] at hchar
  · exact h.plain hquote hslash hcontrol

/-- A text is read back as it was written. -/
theorem escapes (cs : List Char) (rest : Input) :
    Spells ((cs.flatMap Json.escape).map some ++ some '"' :: rest) cs rest := by
  induction cs with
  | nil => exact close rest
  | cons c cs ih =>
    rw [List.flatMap_cons, List.map_append, List.append_assoc]
    exact ih.escape c

end Spells

/-- A literal is read back as it was written. -/
theorem literal?_of_spells {input rest : Input} {cs : List Char} (h : Spells input cs rest) :
    literal? input = some (.string (some (String.ofList cs)), rest) := by
  obtain ⟨ps, hps, hcs⟩ := h
  rw [literal?, hps, Option.map_some, hcs]
  rfl

/-! ## Tokens -/

/-- The token at the front of the input, where it is known. -/
theorem lex?_of_next? {c : Char} {rest after : Input} {t : Token} (hblank : isBlank c = false)
    (h : next? c rest = some (t, after)) :
    lex? (some c :: rest) = (lex? after).map (t :: ·) := by
  rw [lex?, if_neg (by simp [hblank])]
  split
  · next hnone =>
    rw [h] at hnone
    cases hnone
  · next t' after' hsome =>
    rw [h] at hsome
    cases hsome
    rfl

/-- A word is read where it stands. -/
theorem expect?_append (word : String) (t : Token) (rest : Input) :
    expect? word t (Input.ofString word ++ rest) = some (t, rest) := by
  have hlength : (Input.ofString word).length = word.length := by
    rw [Input.ofString, List.length_map, String.length_toList]
  have hprefix : (Input.ofString word).isPrefixOf (Input.ofString word ++ rest) = true :=
    List.isPrefixOf_iff_prefix.mpr (List.prefix_append _ _)
  rw [expect?, if_pos hprefix, ← hlength, List.drop_left]

theorem ne_of_isDigit {c : Char} (h : c.isDigit = true) (d : Char) (hd : d.isDigit = false) :
    c ≠ d := by
  rintro rfl
  rw [hd] at h
  cases h

/-- A token that begins with a digit is a number. -/
theorem next?_of_isDigit {c : Char} (h : c.isDigit = true) (rest : Input) :
    next? c rest = number? [] c rest := by
  have hne := ne_of_isDigit h
  simp only [next?, punctuation?, if_neg (hne '[' rfl), if_neg (hne ']' rfl),
    if_neg (hne '\x7b' rfl), if_neg (hne '\x7d' rfl), if_neg (hne ',' rfl), if_neg (hne ':' rfl),
    if_neg (hne '"' rfl), if_pos h]

/-- No blank is a digit. -/
theorem isBlank_of_isDigit {c : Char} (h : c.isDigit = true) : isBlank c = false := by
  have hne := ne_of_isDigit h
  simp [isBlank, hne ' ' rfl, hne '\t' rfl, hne '\n' rfl, hne '\r' rfl]

namespace Token

/-- How a token is written, as input. -/
def input (t : Token) : Input :=
  .ofString t.text

/-- The token is a number. -/
def isNumber : Token → Bool
  | natural _ => true
  | number _ => true
  | _ => false

/-- The token stands between values or around them. -/
def isPunctuation : Token → Bool
  | openBracket | closeBracket | openBrace | closeBrace | comma | colon => true
  | _ => false

/-- The token is read back where it is written, if what comes after it is no part of it. -/
def Legible (t : Token) : Prop :=
  ∀ rest : Input, (t.isNumber = true → rest.EndsNumber) →
    lex? (t.input ++ rest) = (lex? rest).map (t :: ·)

/-- A number is read back. -/
theorem legible_natural (n : ℕ) : Legible (natural n) := by
  intro rest hrest
  obtain ⟨first, more, hdigits⟩ : ∃ first more, Nat.toDigits 10 n = first :: more :=
    List.exists_cons_of_ne_nil Nat.toDigits_ne_nil
  have hfirst : first.isDigit = true :=
    Nat.isDigit_of_mem_toDigits (by decide) (by decide) (hdigits ▸ List.mem_cons_self)
  have hinput : (natural n).input = some first :: more.map some := by
    show (Nat.repr n).toList.map some = _
    rw [Nat.toList_repr, hdigits]
    rfl
  rw [hinput]
  refine lex?_of_next? (isBlank_of_isDigit hfirst) ?_
  exact (next?_of_isDigit hfirst _).trans (number?_toDigits hdigits (hrest rfl))

/-- A text is read back. -/
theorem legible_string (text : String) : Legible (string (some text)) := by
  intro rest _
  have hinput : (string (some text)).input =
      some '"' :: ((text.toList.flatMap escape).map some ++ [some '"']) := by
    show (String.ofList _).toList.map some = _
    simp
  rw [hinput, List.cons_append, List.append_assoc, List.singleton_append]
  refine lex?_of_next? rfl ?_
  show literal? _ = _
  rw [literal?_of_spells (.escapes text.toList rest), String.ofList_toList]

/-- A literal that spells no text is read back as one. -/
theorem legible_string_none : Legible (string none) := by
  intro rest _
  have hinput : (string none).input =
      some '"' :: [some '\\', some 'u', some 'd', some '8', some '0', some '0', some '"'] := by
    rw [input, text, Input.ofString]
    decide
  have hunit : unitValue? 'd' '8' '0' '0' = some 0xD800 := by decide
  rw [hinput]
  refine lex?_of_next? rfl ?_
  show literal? (some '\\' :: some 'u' :: some 'd' :: some '8' :: some '0' :: some '0' ::
    some '"' :: rest) = _
  rw [literal?, pieces?_unit (pieces?_quote rest) hunit, Option.map_some]
  have hspell : spell? [.unit 0xD800] = none := by
    rw [spell?.eq_def]
    simp
  rw [hspell]
  rfl

/-- All tokens are read back but numbers that are kept as text, which may be any text. -/
theorem legible_of_ne_number {t : Token} (h : ∀ text, t ≠ number text) : t.Legible := by
  cases t with
  | openBracket => exact fun _ _ => lex?_of_next? rfl rfl
  | closeBracket => exact fun _ _ => lex?_of_next? rfl rfl
  | openBrace => exact fun _ _ => lex?_of_next? rfl rfl
  | closeBrace => exact fun _ _ => lex?_of_next? rfl rfl
  | comma => exact fun _ _ => lex?_of_next? rfl rfl
  | colon => exact fun _ _ => lex?_of_next? rfl rfl
  | null => exact fun rest _ => lex?_of_next? (c := 'n') rfl (expect?_append "ull" null rest)
  | bool value =>
    cases value with
    | true =>
      exact fun rest _ => lex?_of_next? (c := 't') rfl (expect?_append "rue" (bool true) rest)
    | false =>
      exact fun rest _ => lex?_of_next? (c := 'f') rfl (expect?_append "alse" (bool false) rest)
  | natural n => exact legible_natural n
  | number text => exact absurd rfl (h text)
  | string text? =>
    cases text? with
    | none => exact legible_string_none
    | some text => exact legible_string text

/-- Punctuation is no part of a number before it. -/
theorem endsNumber_of_isPunctuation {t : Token} (h : t.isPunctuation = true) (rest : Input) :
    (t.input ++ rest).EndsNumber := by
  have hends : ∀ d : Char, (d.isDigit = false ∧ d ≠ '.' ∧ d ≠ 'e' ∧ d ≠ 'E') →
      Input.EndsNumber (some d :: rest) := by
    rintro d hd c hc
    cases hc
    exact hd
  cases t with
  | openBracket => exact hends '[' (by decide)
  | closeBracket => exact hends ']' (by decide)
  | openBrace => exact hends '\x7b' (by decide)
  | closeBrace => exact hends '\x7d' (by decide)
  | comma => exact hends ',' (by decide)
  | colon => exact hends ':' (by decide)
  | null | bool | natural | number | string => cases h

/-- The token `u` may be written right after `t`: after a number only punctuation may. -/
def MayPrecede (t u : Token) : Prop :=
  t.isNumber = true → u.isPunctuation = true

end Token

/-- Legible tokens that are written one after the other are read back, if numbers are set off. -/
theorem lex?_written {ts : List Token} (hlegible : ∀ t ∈ ts, t.Legible)
    (hapart : ts.IsChain Token.MayPrecede) : lex? (ts.flatMap Token.input) = some ts := by
  induction ts with
  | nil => rw [List.flatMap_nil, lex?]
  | cons t ts ih =>
    have hends : t.isNumber = true → Input.EndsNumber (ts.flatMap Token.input) := by
      intro hnumber
      cases ts with
      | nil =>
        intro c hc
        cases hc
      | cons u ts =>
        rw [List.flatMap_cons]
        exact Token.endsNumber_of_isPunctuation ((List.isChain_cons_cons.mp hapart).1 hnumber) _
    rw [List.flatMap_cons, hlegible t List.mem_cons_self _ hends,
      ih (fun u hu => hlegible u (List.mem_cons_of_mem t hu)) hapart.tail]
    rfl

end Xref.Json
