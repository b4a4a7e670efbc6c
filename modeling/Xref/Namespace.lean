/-!
# Name spaces

Every name lives in one of four name spaces. The front end marks a name with a short tag; a tag
that is not listed here belongs to no name space.
-/

namespace Xref

/-- The name space of an identifier. -/
inductive Namespace where
  /-- Variables and record fields. -/
  | value
  | dataConstructor
  | typeVariable
  /-- Type constructors and classes. -/
  | typeOrClass
deriving DecidableEq

namespace Namespace

/-- The name space that the front end means by a tag. -/
def ofTag? (tag : String) : Option Namespace :=
  if tag = "var" ∨ tag = "fld" then some value
  else if tag = "data" then some dataConstructor
  else if tag = "tv" then some typeVariable
  else if tag = "tc" then some typeOrClass
  else none

/-- Names of this space stand for terms, and can have a type. -/
def isTermLevel : Namespace → Bool
  | value | dataConstructor => true
  | typeVariable | typeOrClass => false

theorem isTermLevel_iff {space : Namespace} :
    space.isTermLevel = true ↔ space = value ∨ space = dataConstructor := by
  cases space <;> decide

/-- The letter before a name in the anchors of generated documentation. -/
def anchorMark : Namespace → Char
  | value | dataConstructor => 'v'
  | typeVariable | typeOrClass => 't'

/-- What a reader is told about the name space. -/
def text : Namespace → String
  | value => "value"
  | dataConstructor => "data constructor"
  | typeVariable => "type variable"
  | typeOrClass => "type constructor or class"

end Namespace

end Xref
