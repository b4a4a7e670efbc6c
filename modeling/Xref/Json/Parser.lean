import Xref.Json.Lexer

/-!
# From tokens to values

Values are read by a machine with a stack of the arrays and objects that are still open. It takes
one token at a time, so values can be nested to any depth. After a comma an item or a field must
follow.

`parse?` and `parseBytes?` stand for the readers of `serde_json`. As these do, they take one value
with blanks around it, and nothing else may come after it. What is wrong with a text is not told:
errors of the reader are no part of an index.
-/

namespace Xref.Json

/-- An array or object that is still open, its latest items first. -/
inductive Frame where
  | array (items : List Json)
  /-- An object that waits for the value of `key`. -/
  | object (fields : List (Option String × Json)) (key : Option String)

/-- What may come next, inside the frames of `stack`, innermost first. -/
inductive State where
  /-- A value. -/
  | value (stack : List Frame)
  /-- The first item of an array, or its end. -/
  | firstItem (stack : List Frame)
  /-- The first key of an object, or its end. -/
  | firstKey (stack : List Frame)
  /-- A further key of an object. -/
  | nextKey (stack : List Frame) (fields : List (Option String × Json))
  /-- The colon after a key. -/
  | colon (stack : List Frame) (fields : List (Option String × Json)) (key : Option String)
  /-- What comes after a value: a comma, an end of the innermost frame, or nothing. -/
  | after (stack : List Frame) (value : Json)

namespace State

/-- The state after a token with which a value begins. -/
def begin? (stack : List Frame) : Token → Option State
  | .openBracket => some (firstItem stack)
  | .openBrace => some (firstKey stack)
  | .null => some (after stack .null)
  | .bool b => some (after stack (.bool b))
  | .natural n => some (after stack (.natural n))
  | .number text => some (after stack (.number text))
  | .string text => some (after stack (.string text))
  | _ => none

/-- The state after one more token. -/
def step? : State → Token → Option State
  | value stack, t => begin? stack t
  | firstItem stack, .closeBracket => some (after stack (.array []))
  | firstItem stack, t => begin? (.array [] :: stack) t
  | firstKey stack, .closeBrace => some (after stack (.object []))
  | firstKey stack, .string key => some (colon stack [] key)
  | nextKey stack fields, .string key => some (colon stack fields key)
  | colon stack fields key, .colon => some (value (.object fields key :: stack))
  | after (.array items :: stack) v, .comma => some (value (.array (v :: items) :: stack))
  | after (.array items :: stack) v, .closeBracket =>
    some (after stack (.array (v :: items).reverse))
  | after (.object fields key :: stack) v, .comma => some (nextKey stack ((key, v) :: fields))
  | after (.object fields key :: stack) v, .closeBrace =>
    some (after stack (.object ((key, v) :: fields).reverse))
  | _, _ => none

/-- The value that was read, when nothing is open. -/
def result? : State → Option Json
  | after [] v => some v
  | _ => none

end State

/-- The value that tokens make up. -/
def ofTokens? (ts : List Token) : Option Json := do
  let state ← ts.foldlM State.step? (.value [])
  state.result?

/-- The value that is written in the input. -/
def read? (input : Input) : Option Json :=
  (lex? input).bind ofTokens?

/-- The value that is written in a text. -/
def parse? (text : String) : Option Json :=
  read? (.ofString text)

/-- The value that is written in bytes. -/
def parseBytes? (bytes : ByteArray) : Option Json :=
  read? (.ofBytes bytes)

end Xref.Json
