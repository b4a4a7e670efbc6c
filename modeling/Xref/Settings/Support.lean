import Xref.Shape

/-!
# Supported shapes

The set of shapes that a tree walk may enter. Only implemented shapes can be in it, whatever is
enabled. Two supports with the same shapes are equal (`Support.ext`).
-/

namespace Xref

/-- A set of implemented shapes. -/
structure Support where
  /-- The shape is in the set. -/
  supports : Shape → Bool
  implemented_of_supports : ∀ shape, supports shape = true → shape.isImplemented = true

namespace Support

/-- All implemented shapes. -/
def full : Support :=
  ⟨Shape.isImplemented, fun _ h => h⟩

/-- No shape. -/
def empty : Support :=
  ⟨fun _ => false, nofun⟩

/-- Adds a shape, if it is implemented. -/
def enable (s : Support) (shape : Shape) : Support where
  supports other := if other = shape then shape.isImplemented else s.supports other
  implemented_of_supports other h := by
    split at h
    · next e => exact e ▸ h
    · exact s.implemented_of_supports other h

/-- Removes a shape. -/
def disable (s : Support) (shape : Shape) : Support where
  supports other := if other = shape then false else s.supports other
  implemented_of_supports other h := by
    split at h
    · cases h
    · exact s.implemented_of_supports other h

/-- The supported shapes, in the order of declaration. -/
def shapes (s : Support) : List Shape :=
  Shape.all.filter s.supports

/-- The number of supported shapes. -/
def size (s : Support) : Nat :=
  s.shapes.length

/-- No shape is supported. -/
def isEmpty (s : Support) : Bool :=
  s.shapes.isEmpty

/-- A shape that is not implemented is in no set. -/
theorem supports_eq_false {s : Support} {shape : Shape} (h : shape.isImplemented = false) :
    s.supports shape = false := by
  refine Bool.eq_false_iff.mpr fun hsupp => ?_
  rw [s.implemented_of_supports shape hsupp] at h
  cases h

@[ext]
theorem ext {s t : Support} (h : ∀ shape, s.supports shape = t.supports shape) : s = t := by
  cases s; cases t
  congr
  exact funext h

@[simp]
theorem mem_shapes {s : Support} {shape : Shape} : shape ∈ s.shapes ↔ s.supports shape = true := by
  simp [shapes, Shape.mem_all]

/-- Supports are equal when they list the same shapes. -/
theorem shapes_inj {s t : Support} : s.shapes = t.shapes ↔ s = t := by
  constructor
  · intro h
    ext shape
    rw [Bool.eq_iff_iff, ← mem_shapes, ← mem_shapes, h]
  · rintro rfl; rfl

instance : DecidableEq Support :=
  fun _ _ => decidable_of_iff _ shapes_inj

end Support

end Xref
