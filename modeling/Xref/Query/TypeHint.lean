import Xref.Index.Basic

/-!
# Hints of types

An editor shows the type of a bound name right after it, for names of terms whose type is known.
-/

namespace Xref

/-- A text that is shown between the characters of a line. -/
structure TypeHint where
  /-- Where it is shown: in the column after the name. -/
  position : Position
  label : String
  /-- A blank is shown before the text. -/
  paddingLeft : Bool
  /-- A blank is shown after the text. -/
  paddingRight : Bool
deriving DecidableEq

/-- The hint of an entry. -/
def Entry.typeHint? (e : Entry) : Option TypeHint :=
  if e.2.use.isBinding && e.2.space.isTermLevel then
    e.2.type.map fun type =>
      { position := ⟨e.1.stop.line, e.1.stop.col.next⟩
        label := ":: " ++ type
        paddingLeft := true
        paddingRight := false }
  else none

/-- The span `inner` is of the same file, and both its ends lie in `outer`. -/
def Span.encloses (outer inner : Span) : Bool :=
  outer.file = inner.file && outer.contains inner.start && outer.contains inner.stop

namespace Index

/-- The hints of all entries that have one, in the order of their spans. -/
def typeHints (index : Index) : List TypeHint :=
  index.entries.filterMap Entry.typeHint?

/-- The hints of the entries that lie in a range. -/
def typeHintsIn (index : Index) (range : Span) : List TypeHint :=
  (index.entries.filter fun e => range.encloses e.1).filterMap Entry.typeHint?

end Index

end Xref
