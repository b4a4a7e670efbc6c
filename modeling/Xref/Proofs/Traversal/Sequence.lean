import Xref.Indexing.Trace

/-!
# Walks in sequence

A walk through an outline is a sequence of walks: through its first name or node, then through the
rest. `Trace.andThen` is that sequence as an operation on results, and the lemmas here are its laws:
it is associative, the walk that met nothing is its identity, and breadcrumbs can be left on the two
halves apart. `Outline.trace_append` says that an outline made of two parts is walked one part after
the other, so no later proof has to open the walk itself.
-/

namespace Xref

namespace Trace

attribute [ext] Trace

@[simp]
theorem entries_append (s t : Trace) : (s ++ t).entries = s.entries ++ t.entries :=
  rfl

@[simp]
theorem gaps_append (s t : Trace) : (s ++ t).gaps = s.gaps ++ t.gaps :=
  rfl

@[simp]
theorem entries_empty : empty.entries = [] :=
  rfl

@[simp]
theorem gaps_empty : empty.gaps = [] :=
  rfl

@[simp]
theorem empty_append (t : Trace) : empty ++ t = t :=
  Trace.ext rfl rfl

@[simp]
theorem append_empty (t : Trace) : t ++ empty = t :=
  Trace.ext (by simp) (by simp)

theorem append_assoc (s t u : Trace) : s ++ t ++ u = s ++ (t ++ u) :=
  Trace.ext (by simp) (by simp)

/-! ## One walk after the other -/

/-- The result of one walk and then another: the first error, or both traces in order. -/
def andThen (a b : Except TraversalError Trace) : Except TraversalError Trace := do
  let first ← a
  let others ← b
  return first ++ others

@[simp]
theorem andThen_ok_ok (s t : Trace) : andThen (.ok s) (.ok t) = .ok (s ++ t) :=
  rfl

@[simp]
theorem empty_andThen (b : Except TraversalError Trace) : andThen (.ok empty) b = b := by
  cases b with
  | error e => rfl
  | ok t => rw [andThen_ok_ok, empty_append]

@[simp]
theorem andThen_empty (a : Except TraversalError Trace) : andThen a (.ok empty) = a := by
  cases a with
  | error e => rfl
  | ok s => rw [andThen_ok_ok, append_empty]

theorem andThen_assoc (a b c : Except TraversalError Trace) :
    andThen (andThen a b) c = andThen a (andThen b c) := by
  cases a with
  | error e => rfl
  | ok s =>
    cases b with
    | error e => rfl
    | ok t =>
      cases c with
      | error e => rfl
      | ok u => rw [andThen_ok_ok, andThen_ok_ok, andThen_ok_ok, andThen_ok_ok, append_assoc]

/-- A sequence gets to its end exactly if both walks do. -/
theorem andThen_eq_ok_iff {a b : Except TraversalError Trace} {u : Trace} :
    andThen a b = .ok u ↔ ∃ s t, a = .ok s ∧ b = .ok t ∧ u = s ++ t := by
  constructor
  · intro h
    cases a with
    | error e => cases h
    | ok s =>
      cases b with
      | error e => cases h
      | ok t => exact ⟨s, t, rfl, rfl, (Except.ok.inj h).symm⟩
  · rintro ⟨s, t, rfl, rfl, rfl⟩
    rfl

/-- What is made of a result is there exactly if the result is. -/
theorem map_eq_ok_iff {α β : Type} {f : α → β} {a : Except TraversalError α} {r : β} :
    a.map f = .ok r ↔ ∃ x, a = .ok x ∧ r = f x := by
  constructor
  · intro h
    cases a with
    | error e => cases h
    | ok x => exact ⟨x, rfl, (Except.ok.inj h).symm⟩
  · rintro ⟨x, rfl, rfl⟩
    rfl

/-- What acts on the two halves of a trace apart acts so on the result of a sequence. -/
theorem map_andThen {f : Trace → Trace} (hf : ∀ s t, f (s ++ t) = f s ++ f t)
    (a b : Except TraversalError Trace) :
    (andThen a b).map f = andThen (a.map f) (b.map f) := by
  cases a with
  | error e => rfl
  | ok s =>
    cases b with
    | error e => rfl
    | ok t => exact congrArg Except.ok (hf s t)

/-! ## A result unless something went wrong -/

/-- The error if there is one, and the given result if there is none. -/
def unlessError {α : Type} (error? : Option TraversalError) (result : α) :
    Except TraversalError α :=
  match error? with
  | some e => .error e
  | none => .ok result

theorem unlessError_eq_error_iff {α : Type} {error? : Option TraversalError} {result : α}
    {e : TraversalError} : unlessError error? result = .error e ↔ error? = some e := by
  cases error? with
  | some e' =>
    show Except.error e' = .error e ↔ _
    rw [Except.error.injEq, Option.some.injEq]
  | none => exact ⟨nofun, nofun⟩

theorem unlessError_eq_ok_iff {α : Type} {error? : Option TraversalError} {result r : α} :
    unlessError error? result = .ok r ↔ error? = none ∧ r = result := by
  cases error? with
  | some e => exact ⟨nofun, nofun⟩
  | none =>
    show Except.ok result = .ok r ↔ _
    rw [Except.ok.injEq, eq_comm]
    exact (and_iff_right rfl).symm

theorem map_unlessError {α β : Type} (f : α → β) (error? : Option TraversalError) (result : α) :
    (unlessError error? result).map f = unlessError error? (f result) := by
  cases error? <;> rfl

/-! ## Breadcrumbs -/

/-- Marks act on entries one by one, so a sequence is marked part by part. -/
theorem mark_append (config : Config) (shape : Shape) (s t : Trace) :
    mark config shape (s ++ t) = mark config shape s ++ mark config shape t := by
  unfold mark
  split
  · exact Trace.ext (by simp) (by simp)
  · rfl

@[simp]
theorem mark_empty (config : Config) (shape : Shape) : mark config shape empty = empty := by
  unfold mark
  split
  · exact Trace.ext (by simp) rfl
  · rfl

/-- Of the settings, only those for breadcrumbs count for them. -/
theorem mark_congr {c c' : Config} (h : c.breadcrumbs = c'.breadcrumbs) (shape : Shape) :
    mark c shape = mark c' shape := by
  funext t
  unfold mark
  rw [h]

/-- Breadcrumbs are left on entries and never on gaps. -/
@[simp]
theorem gaps_mark (config : Config) (shape : Shape) (t : Trace) :
    (mark config shape t).gaps = t.gaps := by
  unfold mark
  split <;> rfl

/-- Leaves a breadcrumb for every shape of a path. The path starts with the outermost shape, which
is marked last and so stands first in the marked names. -/
def markAll (config : Config) (shapes : List Shape) (t : Trace) : Trace :=
  shapes.foldr (mark config) t

theorem markAll_append_singleton (config : Config) (shapes : List Shape) (shape : Shape)
    (t : Trace) :
    markAll config (shapes ++ [shape]) t = markAll config shapes (mark config shape t) := by
  unfold markAll
  rw [List.foldr_append]
  rfl

@[simp]
theorem markAll_empty (config : Config) (shapes : List Shape) :
    markAll config shapes empty = empty := by
  induction shapes with
  | nil => rfl
  | cons shape shapes ih =>
    show mark config shape (markAll config shapes empty) = empty
    rw [ih, mark_empty]

theorem markAll_append (config : Config) (shapes : List Shape) (s t : Trace) :
    markAll config shapes (s ++ t) = markAll config shapes s ++ markAll config shapes t := by
  induction shapes with
  | nil => rfl
  | cons shape shapes ih =>
    show mark config shape (markAll config shapes (s ++ t)) = _
    rw [ih, mark_append]
    rfl

/-- Marking the result of a sequence is marking the results of its parts. -/
theorem map_markAll_andThen (config : Config) (shapes : List Shape)
    (a b : Except TraversalError Trace) :
    (andThen a b).map (markAll config shapes) =
      andThen (a.map (markAll config shapes)) (b.map (markAll config shapes)) :=
  map_andThen (markAll_append config shapes) a b

end Trace

/-! ## Walks of outlines -/

namespace Outline

open Trace

variable {I : Type} (reading : Reading I) (config : Config)

@[simp]
theorem trace_nil : (nil : Outline I).trace reading config = .ok .empty :=
  rfl

theorem trace_name (use : Use) (ident : Located I) (rest : Outline I) :
    (name use ident rest).trace reading config =
      andThen (reading.trace config.mode use ident) (rest.trace reading config) :=
  rfl

theorem trace_node (shape : Shape) (loc : Location) (inner rest : Outline I) :
    (node shape loc inner rest).trace reading config =
      andThen
        (if config.support.supports shape then
          (inner.trace reading config).map (mark config shape)
        else skip config.mode (.unsupported shape loc))
        (rest.trace reading config) := by
  rw [trace]
  split <;> rfl

/-- The walk through a single node with a shape. -/
theorem trace_enclose (shape : Shape) (loc : Location) (inner : Outline I) :
    (enclose (some shape) loc inner).trace reading config =
      if config.support.supports shape then
        (inner.trace reading config).map (mark config shape)
      else skip config.mode (.unsupported shape loc) := by
  rw [enclose, trace_node, trace_nil, andThen_empty]

/-- An outline of two parts is walked one part after the other. -/
theorem trace_append (a b : Outline I) :
    (a ++ b).trace reading config = andThen (a.trace reading config) (b.trace reading config) := by
  induction a with
  | nil => rw [nil_append, trace_nil, empty_andThen]
  | name use ident rest ih => rw [name_append, trace_name, trace_name, ih, andThen_assoc]
  | node shape loc inner rest _ ih =>
    rw [node_append, trace_node, trace_node, ih, andThen_assoc]

end Outline

end Xref
