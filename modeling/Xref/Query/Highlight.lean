import Xref.Index.Basic

/-!
# Highlighting

An editor colours each name that stands on one line by what it names. A value is a function when its
type has an arrow outside all parentheses and brackets.
-/

namespace Xref

/-- What a name is coloured as. -/
inductive HighlightKind where
  /-- A value that is no function. -/
  | plain
  | function
  | enumMember
  | typeParameter
  | type
deriving DecidableEq

/-- The number of a kind in the legend of colours. -/
def HighlightKind.number : HighlightKind → Nat
  | plain => 0
  | function => 1
  | enumMember => 2
  | typeParameter => 3
  | type => 4

/-- There is an arrow outside brackets in the rest of a text, where `depth` brackets are open and
`last` is the character before it. -/
def hasOuterArrowFrom (depth : Int) (last : Char) : List Char → Bool
  | [] => false
  | c :: rest =>
    if c = '(' ∨ c = '[' then hasOuterArrowFrom (depth + 1) c rest
    else if c = ')' ∨ c = ']' then hasOuterArrowFrom (depth - 1) c rest
    else if c = '>' ∧ last = '-' ∧ depth = 0 then true
    else hasOuterArrowFrom depth c rest

/-- There is an arrow outside all parentheses and brackets. -/
def hasOuterArrow (type : String) : Bool :=
  hasOuterArrowFrom 0 ' ' type.toList

/-- What the name of a record is coloured as. -/
def Record.highlightKind (r : Record) : HighlightKind :=
  match r.space with
  | .value => if r.type.any hasOuterArrow then .function else .plain
  | .dataConstructor => .enumMember
  | .typeVariable => .typeParameter
  | .typeOrClass => .type

/-- A coloured stretch of a line. -/
structure Highlight where
  start : Position
  length : Coordinate
  kind : HighlightKind
  /-- The name is bound here. -/
  declaration : Bool
deriving DecidableEq

/-- The highlight of an entry on one line. -/
def Entry.highlight? (e : Entry) : Option Highlight :=
  if e.1.start.line = e.1.stop.line then
    some
      { start := e.1.start
        length := (e.1.stop.col.minus e.1.start.col).next
        kind := e.2.highlightKind
        declaration := e.2.use.isBinding }
  else none

/-- The highlights of all entries on one line, in the order of their spans. -/
def Index.highlights (index : Index) : List Highlight :=
  index.entries.filterMap Entry.highlight?

end Xref
