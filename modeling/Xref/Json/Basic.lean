/-!
# JSON values

A value as it was written. Numbers that are written with digits alone are kept as numbers, all
others as text, and the fields of an object keep their order and their repetitions.

A string literal can spell what is no text: half of a surrogate pair, or bytes outside UTF-8. Such a
literal is `none`.

Values, with their writer and their reader, stand for the library `serde_json`. They follow the
grammar that it documents, and its law that a value which is printed and read again is the same.
-/

namespace Xref

/-- A JSON value. -/
inductive Json where
  | null
  | bool (value : Bool)
  /-- A number written with digits alone. -/
  | natural (value : Nat)
  /-- Any other number, as it was written. -/
  | number (text : String)
  /-- A string; `none` for a literal that spells no text. -/
  | string (text : Option String)
  | array (items : List Json)
  /-- An object with its fields in the order in which they were written. -/
  | object (fields : List (Option String × Json))

namespace Json

/-- The string with this text. -/
def ofString (s : String) : Json :=
  string (some s)

/-- The text, or `null` where there is none. -/
def ofString? : Option String → Json
  | some s => ofString s
  | none => null

/-- The object with fields of these names. -/
def record (fields : List (String × Json)) : Json :=
  object (fields.map fun field => (some field.1, field.2))

end Json

end Xref
