import Xref.Name
import Xref.Namespace

/-!
# Records of identifier occurrences

A record holds what is known of one occurrence of a name: the name, the module and package that own
it, its name space, its type, where it is defined, and whether this occurrence binds it. A record
can be made of any identifier with a known tag (`Reading.record?_isSome`), and has a type only
when the name stands for a term.
-/

namespace Xref

/-- What an occurrence does with its name. -/
inductive Use where
  /-- Introduces the name. -/
  | binding
  /-- Refers to the name. -/
  | reference
deriving DecidableEq

/-- The occurrence introduces the name. -/
def Use.isBinding : Use → Bool
  | .binding => true
  | .reference => false

theorem Use.isBinding_iff {use : Use} : use.isBinding = true ↔ use = .binding := by
  cases use <;> decide

/-- What a reader is told about the use. -/
def Use.text : Use → String
  | .binding => "binding"
  | .reference => "reference"

/-- What is known of one occurrence of a name. -/
structure Record where
  /-- The name as written, without qualification. -/
  name : String
  moduleName : Option String
  packageName : Option String
  space : Namespace
  /-- The text of the type, for names of terms that were typed. -/
  type : Option String
  /-- Where the name is defined. -/
  definition : Location
  use : Use
deriving DecidableEq

namespace Record

/-- The name after its module, if it has one. -/
def qualifiedName (r : Record) : String :=
  match r.moduleName with
  | some m => m ++ "." ++ r.name
  | none => r.name

/-- One line about the record. -/
def text (r : Record) : String :=
  r.qualifiedName ++ " (" ++ r.space.text ++ ", " ++ r.use.text ++ ")" ++
    (match r.type with
      | some type => " :: " ++ type
      | none => "")

end Record

/-- The record of an occurrence of `ident`, unless its tag belongs to no name space. Only names of
terms keep a type. -/
def Reading.record? {I : Type} (reading : Reading I) (use : Use) (ident : I) : Option Record :=
  let name := reading.name ident
  (Namespace.ofTag? name.tag).map fun space =>
    { name := name.text
      moduleName := name.owner.map Owner.moduleName
      packageName := name.owner.bind Owner.packageName
      space
      type := if space.isTermLevel then reading.type? ident else none
      definition := name.definition
      use }

/-- A record can be made exactly when the tag is known. -/
theorem Reading.record?_isSome {I : Type} (reading : Reading I) (use : Use) (ident : I) :
    (reading.record? use ident).isSome = (Namespace.ofTag? (reading.name ident).tag).isSome := by
  simp [record?]

end Xref
