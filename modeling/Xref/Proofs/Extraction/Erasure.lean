import Xref.Proofs.Extraction.BothTrees

/-!
# Erasing types

A walk knows identifiers only through a reading. So changing the identifiers of a tree is the same as
reading them through the change (`Outline.trace_map`), and a reading that forgets types leaves the
same trace with the types taken out of the records (`Outline.trace_untyped`). Both are proved by
induction on the outline, from what happens at one name and at one node.

Together they say that the tree of a type checker, with its types erased, is indexed like the tree
itself, except for the types in the records (`Module.indexed_erase`). An erased tree has nothing to
add to the index of the tree that it was made of.
-/

namespace Xref

open Trace

variable {I J T : Type}

/-! ## Reading through a change of identifiers -/

/-- Reads an identifier as `reading` reads what `f` makes of it. -/
def Reading.comap (f : I → J) (reading : Reading J) : Reading I :=
  ⟨reading.name ∘ f, reading.type? ∘ f⟩

/-- A walk through changed identifiers is a walk that reads them through the change. -/
theorem Outline.trace_map (f : I → J) (o : Outline I) (reading : Reading J) (config : Config) :
    (o.map f).trace reading config = o.trace (reading.comap f) config := by
  induction o with
  | nil => rfl
  | name use ident rest ih =>
    have hname : reading.trace config.mode use (ident.map f) =
        (reading.comap f).trace config.mode use ident := rfl
    rw [map, trace_name, trace_name, hname, ih]
  | node shape loc inner rest ihInner ih => rw [map, trace_node, trace_node, ihInner, ih]

/-! ## Changing records -/

/-- Changes the record of an entry. -/
def Entry.mapRecord (f : Record → Record) (e : Entry) : Entry :=
  (e.1, f e.2)

namespace Trace

/-- Changes the records of a trace. -/
def mapRecords (f : Record → Record) (t : Trace) : Trace :=
  { t with entries := t.entries.map (Entry.mapRecord f) }

theorem mapRecords_append (f : Record → Record) (s t : Trace) :
    mapRecords f (s ++ t) = mapRecords f s ++ mapRecords f t :=
  Trace.ext List.map_append rfl

/-- There is no record in a gap. -/
theorem map_mapRecords_skip (f : Record → Record) (mode : Mode) (gap : Gap) :
    (skip mode gap).map (mapRecords f) = skip mode gap := by
  cases mode <;> rfl

end Trace

namespace Index

/-- Changes the records of an index. -/
def mapRecords (f : Record → Record) (index : Index) : Index where
  entries := index.entries.map (Entry.mapRecord f)
  sorted := index.sorted.map (Entry.mapRecord f) fun _ _ h => h

theorem get?_mapRecords (f : Record → Record) (index : Index) (s : Span) :
    (index.mapRecords f).get? s = (index.get? s).map f := by
  unfold get? mapRecords
  rw [List.find?_map, Option.map_map, Option.map_map]
  rfl

/-- Records can be changed before they are written or after. -/
theorem ofPairs_map (f : Record → Record) (pairs : List Entry) :
    ofPairs (pairs.map (Entry.mapRecord f)) = (ofPairs pairs).mapRecords f := by
  refine ext_get? fun s => ?_
  rw [get?_mapRecords, get?_ofPairs, get?_ofPairs, ← List.map_reverse, List.find?_map,
    Option.map_map, Option.map_map]
  rfl

end Index

/-! ## Taking types out -/

/-- The record without its type. -/
def Record.untyped (r : Record) : Record :=
  { r with type := none }

/-- Reads the same names, and no types. -/
def Reading.untyped (reading : Reading I) : Reading I :=
  ⟨reading.name, fun _ => none⟩

/-- The type is all that a record loses. -/
theorem Reading.record?_untyped (reading : Reading I) (use : Use) (ident : I) :
    reading.untyped.record? use ident = (reading.record? use ident).map Record.untyped := by
  unfold Reading.record?
  show (Namespace.ofTag? (reading.name ident).tag).map _ =
    ((Namespace.ofTag? (reading.name ident).tag).map _).map _
  cases Namespace.ofTag? (reading.name ident).tag with
  | none => rfl
  | some space => simp [Record.untyped, untyped]

/-- One name: neither the error nor the gap says anything about types. -/
theorem Reading.trace_untyped (reading : Reading I) (mode : Mode) (use : Use)
    (ident : Located I) :
    reading.untyped.trace mode use ident =
      (reading.trace mode use ident).map (mapRecords Record.untyped) := by
  unfold Reading.trace Reading.record
  rw [record?_untyped]
  cases reading.record? use ident.node with
  | none => rfl
  | some r =>
    obtain ⟨loc, node⟩ := ident
    cases loc with
    | known span => rfl
    | placeholder description => exact (map_mapRecords_skip _ mode _).symm

/-- Breadcrumbs do not look at types. -/
theorem Record.untyped_mark (shape : Shape) (r : Record) :
    (r.mark shape).untyped = r.untyped.mark shape := by
  unfold Record.mark Record.untyped
  split <;> rfl

theorem Trace.mapRecords_untyped_mark (config : Config) (shape : Shape) (t : Trace) :
    mapRecords Record.untyped (mark config shape t) =
      mark config shape (mapRecords Record.untyped t) := by
  unfold mark
  split
  · refine Trace.ext ?_ rfl
    show (t.entries.map _).map _ = (t.entries.map _).map _
    rw [List.map_map, List.map_map]
    refine List.map_congr_left fun e _ => ?_
    exact congrArg (Prod.mk e.1) (Record.untyped_mark shape e.2)
  · rfl

/-- A walk that reads no types leaves the trace of one that does, less the types. -/
theorem Outline.trace_untyped (o : Outline I) (reading : Reading I) (config : Config) :
    o.trace reading.untyped config =
      (o.trace reading config).map (mapRecords Record.untyped) := by
  induction o with
  | nil => rfl
  | name use ident rest ih =>
    rw [trace_name, trace_name, Reading.trace_untyped, ih, map_andThen (mapRecords_append _)]
  | node shape loc inner rest ihInner ih =>
    rw [trace_node, trace_node, ih, map_andThen (mapRecords_append _), ihInner]
    split
    · -- The breadcrumb is left after the types are taken out on one side, before it on the other.
      cases inner.trace reading config with
      | error e => rfl
      | ok t =>
        show andThen (.ok (mark config shape (mapRecords Record.untyped t))) _ = _
        rw [← mapRecords_untyped_mark]
        rfl
    · rw [map_mapRecords_skip]

/-! ## Erased trees -/

/-- The tree with resolved names in place of typed ones. -/
def Module.erase (m : Module (TypedName T)) : Module Name :=
  m.map TypedName.name TypedName.name

/-- The result with the types taken out of its index. -/
def Indexed.untyped (r : Indexed) : Indexed :=
  ⟨r.index.mapRecords Record.untyped, r.diagnostics⟩

theorem Trace.indexed_untyped (phase : Phase) (t : Trace) :
    (mapRecords Record.untyped t).indexed phase = (t.indexed phase).untyped := by
  unfold Trace.indexed Indexed.untyped
  rw [← Index.ofPairs_map]
  rfl

/-- An erased tree is indexed like the tree, less the types. -/
theorem Module.indexed_erase (m : Module (TypedName T)) (render : T → String) (config : Config)
    (phase : Phase) :
    m.erase.indexed .resolved config phase =
      (m.indexed (.typed render) config phase).map Indexed.untyped := by
  have htrace : m.erase.outline.trace .resolved config =
      (m.outline.trace (.typed render) config).map (mapRecords Record.untyped) := by
    calc m.erase.outline.trace .resolved config
        = (m.outline.map TypedName.name).trace .resolved config := by
          rw [Module.erase, Module.outline_map]
      _ = m.outline.trace (Reading.resolved.comap TypedName.name) config :=
          Outline.trace_map _ _ _ _
      -- Reading the name of a typed name is reading the typed name and no type.
      _ = m.outline.trace (Reading.typed render).untyped config := rfl
      _ = (m.outline.trace (.typed render) config).map (mapRecords Record.untyped) :=
          Outline.trace_untyped _ _ _
  unfold Module.indexed
  rw [htrace]
  cases m.outline.trace (.typed render) config with
  | error e => rfl
  | ok t => exact congrArg Except.ok (Trace.indexed_untyped phase t)

/-- An index has all that it has without types. -/
theorem Index.combine_untyped (index : Index) :
    index.combine (index.mapRecords Record.untyped) = index := by
  refine ext_get? fun s => ?_
  rw [get?_combine, get?_mapRecords]
  cases index.get? s <;> rfl

/-- Extraction from a type-checked tree and its erased form is indexing the tree alone. Where that
fails, the erased tree is the one to be blamed, since it comes first. -/
theorem extract_erase (m : Module (TypedName T)) (render : T → String) (config : Config)
    (phase : Phase) :
    extract m.erase m render config =
      ((m.indexed (.typed render) config phase).map Indexed.index).mapError (⟨.renamed, ·⟩) := by
  have herased := m.indexed_erase render config .renamed
  unfold extract
  -- The three walks, one of them for each phase, leave the same trace.
  cases htrace : m.outline.trace (.typed render) config with
  | error e =>
    have hfull : ∀ phase, m.indexed (.typed render) config phase = .error e := fun phase => by
      rw [Module.indexed, htrace]
      rfl
    rw [hfull] at herased
    rw [extractWithReports_of_renamed_error herased, hfull]
    rfl
  | ok t =>
    have hfull : ∀ phase, m.indexed (.typed render) config phase = .ok (t.indexed phase) :=
      fun phase => by
        rw [Module.indexed, htrace]
        rfl
    rw [hfull] at herased
    rw [extractWithReports_of_ok herased (hfull .typechecked), hfull]
    exact congrArg Except.ok (Index.combine_untyped (.ofPairs t.entries))

/-- Indexing a type-checked tree and indexing its erased form fail with the same error, or both
succeed with the same reports, the same spans, and records that are the same without their types.
So extraction from both has the index of the type-checked tree, and succeeds whenever there is
one. -/
theorem Module.indexed_erase_agrees (m : Module (TypedName T)) (render : T → String)
    (config : Config) (phase : Phase) :
    ((∃ e, m.erase.indexed .resolved config phase = .error e ∧
        m.indexed (.typed render) config phase = .error e) ∨
      ∃ erased full, m.erase.indexed .resolved config phase = .ok erased ∧
        m.indexed (.typed render) config phase = .ok full ∧
        erased.diagnostics = full.diagnostics ∧
        (∀ s, erased.index.contains s = full.index.contains s) ∧
        ∀ s, (erased.index.get? s).map Record.untyped = (full.index.get? s).map Record.untyped) ∧
    ∀ index, extract m.erase m render config = .ok index ↔
      ∃ full, m.indexed (.typed render) config phase = .ok full ∧ index = full.index := by
  have herased := m.indexed_erase render config phase
  have hextract := extract_erase m render config phase
  cases hfull : m.indexed (.typed render) config phase with
  | error e =>
    rw [hfull] at herased hextract
    refine ⟨.inl ⟨e, herased, rfl⟩, fun index => ?_⟩
    rw [hextract]
    constructor
    · intro h
      cases h
    · rintro ⟨full, h, -⟩
      cases h
  | ok full =>
    rw [hfull] at herased hextract
    refine ⟨.inr ⟨full.untyped, full, herased, rfl, rfl, fun s => ?_, fun s => ?_⟩, fun index => ?_⟩
    · show ((full.index.mapRecords Record.untyped).get? s).isSome = (full.index.get? s).isSome
      rw [Index.get?_mapRecords, Option.isSome_map]
    · show ((full.index.mapRecords Record.untyped).get? s).map Record.untyped = _
      rw [Index.get?_mapRecords, Option.map_map]
      rfl
    · rw [hextract]
      constructor
      · intro h
        exact ⟨full, rfl, (Except.ok.inj h).symm⟩
      · rintro ⟨full', hfull', rfl⟩
        cases hfull'
        rfl

end Xref
