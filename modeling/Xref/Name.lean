import Xref.Source.Location

/-!
# Names as the front end resolves them

The front end reports an identifier in one of two ways: after resolving it, or after typing it as
well. A `Reading` is what an index needs to know of either: the resolved name and, if there is one,
the text of its type.
-/

namespace Xref

/-- The module that owns a name, and its package when that is known. -/
structure Owner where
  moduleName : String
  packageName : Option String
deriving DecidableEq

/-- A resolved name. Names bound locally have no owner. -/
structure Name where
  /-- The name as written, without qualification. -/
  text : String
  /-- The front end's mark for the name space. -/
  tag : String
  owner : Option Owner
  /-- Where the name is defined. -/
  definition : Location
deriving DecidableEq

/-- A resolved name with its type, in whatever form the front end keeps types. -/
structure TypedName (T : Type) where
  name : Name
  type : T
deriving DecidableEq

/-- How an index reads identifiers of type `I`. -/
structure Reading (I : Type) where
  /-- The resolved name of an identifier. -/
  name : I → Name
  /-- The text of its type, if it has one. -/
  type? : I → Option String

namespace Reading

/-- Reads resolved names, which have no types. -/
def resolved : Reading Name :=
  ⟨id, fun _ => none⟩

/-- Reads typed names, writing types with `render`. -/
def typed {T : Type} (render : T → String) : Reading (TypedName T) :=
  ⟨TypedName.name, fun ident => some (render ident.type)⟩

end Reading

end Xref
