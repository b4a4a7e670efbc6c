import Xref.Json.Basic

/-!
# Tokens of JSON text

The tokens, and how each is written. Values are written as `serde_json` does: compact, without
blanks between tokens, and in strings only quotes, backslashes and control characters are escaped,
by a short escape where there is one.
-/

namespace Xref.Json

/-- A token of JSON text. -/
inductive Token where
  | openBracket
  | closeBracket
  | openBrace
  | closeBrace
  | comma
  | colon
  | null
  | bool (value : Bool)
  | natural (value : Nat)
  | number (text : String)
  | string (text : Option String)
deriving DecidableEq

/-- The character that a letter after a backslash stands for. -/
def unescape? (c : Char) : Option Char :=
  if c = '"' ∨ c = '\\' ∨ c = '/' then some c
  else if c = 'b' then some '\x08'
  else if c = 'f' then some '\x0c'
  else if c = 'n' then some '\n'
  else if c = 'r' then some '\r'
  else if c = 't' then some '\t'
  else none

/-- The digit of a number below sixteen. -/
def hexDigit (n : Nat) : Char :=
  if n < 10 then Char.ofNat (48 + n) else Char.ofNat (87 + n)

/-- How a character is written in a string. -/
def escape (c : Char) : List Char :=
  if c = '"' then ['\\', '"']
  else if c = '\\' then ['\\', '\\']
  else if c = '\x08' then ['\\', 'b']
  else if c = '\x0c' then ['\\', 'f']
  else if c = '\n' then ['\\', 'n']
  else if c = '\r' then ['\\', 'r']
  else if c = '\t' then ['\\', 't']
  else if c.toNat < 32 then ['\\', 'u', '0', '0', hexDigit (c.toNat / 16), hexDigit (c.toNat % 16)]
  else [c]

namespace Token

/-- How a token is written. A literal that spells no text is written as a lone surrogate. -/
def text : Token → String
  | openBracket => "["
  | closeBracket => "]"
  | openBrace => "\x7b"
  | closeBrace => "\x7d"
  | comma => ","
  | colon => ":"
  | null => "null"
  | bool true => "true"
  | bool false => "false"
  | natural value => Nat.repr value
  | number text => text
  | string (some text) => String.ofList ('"' :: text.toList.flatMap escape ++ ['"'])
  | string none => "\"\\ud800\""

end Token

mutual

/-- The tokens of a value. -/
def tokens : Json → List Token
  | null => [.null]
  | bool value => [.bool value]
  | natural value => [.natural value]
  | number text => [.number text]
  | string text => [.string text]
  | array items => .openBracket :: itemTokens items
  | object fields => .openBrace :: fieldTokens fields

/-- The tokens of items, separated by commas, to the end of their array. -/
def itemTokens : List Json → List Token
  | [] => [.closeBracket]
  | [item] => item.tokens ++ [.closeBracket]
  | item :: next :: rest => item.tokens ++ .comma :: itemTokens (next :: rest)

/-- The tokens of fields, separated by commas, to the end of their object. -/
def fieldTokens : List (Option String × Json) → List Token
  | [] => [.closeBrace]
  | [(key, value)] => .string key :: .colon :: value.tokens ++ [.closeBrace]
  | (key, value) :: next :: rest =>
    .string key :: .colon :: value.tokens ++ .comma :: fieldTokens (next :: rest)

end

/-- The text of a value, without blanks. -/
def render (value : Json) : String :=
  String.join (value.tokens.map Token.text)

end Xref.Json
