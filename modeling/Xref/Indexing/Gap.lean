import Xref.Shape
import Xref.Source.Location

/-!
# Why something is not indexed

A gap is something that an index leaves out: a node of a shape that is not supported, or a name
whose place is not known. In strict mode a gap ends the walk of a tree; in either mode so does a
name whose tag belongs to no name space.
-/

namespace Xref

/-- Something that an index leaves out. -/
inductive Gap where
  /-- A node of an unsupported shape, with all that it holds. -/
  | unsupported (shape : Shape) (location : Location)
  /-- A name that stands at no known place. -/
  | imprecise (name description : String)
deriving DecidableEq

/-- Why a tree cannot be indexed. -/
inductive TraversalError where
  | gap (gap : Gap)
  /-- A name with a tag that belongs to no name space. -/
  | unknownTag (tag name : String)
deriving DecidableEq

/-- What a reader is told about a gap that ended a walk. -/
def Gap.message : Gap → String
  | unsupported shape location =>
    "unsupported construct " ++ shape.name ++ " at " ++ location.text
  | imprecise name description =>
    "identifier '" ++ name ++ "' has no precise location (" ++ description ++ ")"

namespace TraversalError

/-- What a reader is told about an error. -/
def message : TraversalError → String
  | gap g => g.message
  | unknownTag tag name => "unknown namespace tag '" ++ tag ++ "' on identifier '" ++ name ++ "'"

/-- The front end broke its contract, so the error is one in every mode. -/
def isContractViolation : TraversalError → Bool
  | gap _ => false
  | unknownTag .. => true

end TraversalError

end Xref
