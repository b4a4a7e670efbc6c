import Xref.Source.Span

/-!
# Locations

The front end knows where most things are. Built-in and generated things have no place in a file;
for them it gives a description in place of a span.
-/

namespace Xref

/-- A span, or the reason why there is none. -/
inductive Location where
  /-- A real place. -/
  | known (span : Span)
  /-- No real place; the description says why. -/
  | placeholder (description : String)
deriving DecidableEq

namespace Location

/-- The span of a known location. -/
def span? : Location → Option Span
  | known span => some span
  | placeholder _ => none

/-- The location is a real place. -/
def isKnown (loc : Location) : Bool :=
  loc.span?.isSome

/-- The text of the span, or the description between angle brackets. -/
def text : Location → String
  | known span => span.text
  | placeholder description => "<" ++ description ++ ">"

end Location

/-- Something at a location. -/
structure Located (α : Type) where
  loc : Location
  node : α
deriving DecidableEq

/-- Changes what is located and keeps the location. -/
def Located.map {α β : Type} (f : α → β) (x : Located α) : Located β :=
  ⟨x.loc, f x.node⟩

end Xref
