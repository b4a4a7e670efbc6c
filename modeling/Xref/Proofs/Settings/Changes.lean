import Mathlib.Data.List.Induction
import Mathlib.Data.Set.Card
import Xref.Settings.Config

/-!
# Support after changes

A support is made from one of few by changes that enable or disable one shape each. A change decides
about its own shape, whatever was decided before, and about no other (`Support.supports_apply`). So
what is supported in the end depends on the last change of each shape only, and on the start for the
shapes without a change (`Support.supports_run_iff`). To enable a shape that is not implemented has
no effect, and no start has one, so such shapes are never supported.
-/

namespace Xref.Support

/-! ## Changes -/

/-- What a support is made from. -/
inductive Start where
  | full
  /-- The support in settings that leave it open. -/
  | default
  | empty
deriving DecidableEq

/-- The support before any change. -/
def Start.support : Start → Support
  | full => .full
  | default => ({} : Config).support
  | empty => .empty

/-- A change of one shape. -/
inductive Change where
  | enable (shape : Shape)
  | disable (shape : Shape)
deriving DecidableEq

/-- The shape that a change names. -/
def Change.shape : Change → Shape
  | enable shape | disable shape => shape

/-- The last of the changes that name a shape. -/
def Change.last? (changes : List Change) (shape : Shape) : Option Change :=
  changes.findRev? fun change => change.shape = shape

/-- Makes a change. -/
def apply (s : Support) : Change → Support
  | .enable shape => s.enable shape
  | .disable shape => s.disable shape

/-- The support after changes, made one after the other. -/
def run (start : Start) (changes : List Change) : Support :=
  changes.foldl apply start.support

theorem run_concat (start : Start) (changes : List Change) (change : Change) :
    run start (changes ++ [change]) = (run start changes).apply change := by
  unfold run
  rw [List.foldl_append]
  rfl

theorem Change.last?_concat (changes : List Change) (change : Change) (shape : Shape) :
    last? (changes ++ [change]) shape =
      if change.shape = shape then some change else last? changes shape := by
  unfold last?
  rw [List.findRev?_eq_find?_reverse, List.findRev?_eq_find?_reverse, List.reverse_append]
  by_cases h : change.shape = shape <;> simp [h]

/-! ## What is supported after changes -/

/-- All starts but the empty one support what is implemented. -/
theorem Start.supports_support (start : Start) (shape : Shape) :
    start.support.supports shape = (shape.isImplemented && decide (start ≠ .empty)) := by
  cases start with
  | full => exact (Bool.and_true _).symm
  | default => exact (Bool.and_true _).symm
  | empty => exact (Bool.and_false _).symm

/-- A change decides about its shape, and leaves the others as they are. -/
theorem supports_apply (s : Support) (change : Change) (shape : Shape) :
    (s.apply change).supports shape =
      if change.shape = shape then shape.isImplemented && decide (change = .enable shape)
      else s.supports shape := by
  cases change with
  | enable other =>
    show (if shape = other then other.isImplemented else s.supports shape) = _
    by_cases h : other = shape
    · simp [Change.shape, h]
    · simp [Change.shape, h, Ne.symm h]
  | disable other =>
    show (if shape = other then false else s.supports shape) = _
    by_cases h : other = shape
    · simp [Change.shape, h]
    · simp [Change.shape, h, Ne.symm h]

/-- After changes, the last change of a shape decides about it, or else the start. -/
theorem supports_run (start : Start) (changes : List Change) (shape : Shape) :
    (run start changes).supports shape =
      match Change.last? changes shape with
      | some change => shape.isImplemented && decide (change = .enable shape)
      | none => shape.isImplemented && decide (start ≠ .empty) := by
  induction changes using List.reverseRecOn with
  | nil => exact start.supports_support shape
  | append_singleton changes change ih =>
    rw [run_concat, supports_apply, Change.last?_concat]
    split
    · rfl
    · exact ih

/-- A shape is supported after changes if it is implemented and was enabled last, or never changed
after a start that is not empty. -/
theorem supports_run_iff {start : Start} {changes : List Change} {shape : Shape} :
    (run start changes).supports shape = true ↔
      shape.isImplemented = true ∧ (Change.last? changes shape = some (.enable shape) ∨
        (Change.last? changes shape = none ∧ start ≠ .empty)) := by
  rw [supports_run]
  cases Change.last? changes shape with
  | none => simp
  | some change => simp

/-- Only the last changes of implemented shapes matter. -/
theorem run_eq_of_last? {start : Start} {changes others : List Change}
    (h : ∀ shape, shape.isImplemented = true →
      Change.last? changes shape = Change.last? others shape) :
    run start changes = run start others := by
  ext shape
  rw [Bool.eq_iff_iff, supports_run_iff, supports_run_iff]
  exact and_congr_right fun himpl => by rw [h shape himpl]

/-! ## The size of a support -/

theorem nodup_shapes (s : Support) : s.shapes.Nodup := by
  -- All shapes are listed in the order in which they are declared.
  have hall : Shape.all.map Shape.ctorIdx = List.range 98 := by decide
  have hnodup : Shape.all.Nodup := .of_map Shape.ctorIdx (hall ▸ List.nodup_range)
  exact hnodup.filter _

/-- The size of a support is the number of shapes that are supported. -/
theorem size_eq_ncard (s : Support) : s.size = {shape | s.supports shape = true}.ncard := by
  have hset : {shape | s.supports shape = true} = (s.shapes.toFinset : Set Shape) := by
    ext shape
    simp
  rw [hset, Set.ncard_coe_finset, List.toFinset_card_of_nodup s.nodup_shapes]
  rfl

end Xref.Support
