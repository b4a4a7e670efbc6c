import Xref.Proofs.Extraction.BothTrees
import Xref.Proofs.Traversal.Breadcrumbs
import Xref.Query.TypeHint

/-!
# Where types come from

The types in the index of a file are those of the type-checked tree. An entry of that tree has the
type of the last name at its span if it stands for a term, and none otherwise
(`Module.exists_type_of_mem`); an entry of the renamed tree never has a type. In the union the
entries of the type-checked tree are all there, so a type is known exactly where this tree has an
entry for a term. Hints of types are made of entries with types, and the renamed tree adds none.
-/

namespace Xref

/-! ## Types in records -/

/-- Breadcrumbs change the name of a record and nothing else. -/
theorem Record.exists_markAll_eq (config : Config) (shapes : List Shape) (r : Record) :
    ∃ name, r.markAll config shapes = { r with name } := by
  unfold markAll
  split
  · rw [foldr_mark]
    split
    · exact ⟨r.name, rfl⟩
    · exact ⟨_, rfl⟩
  · exact ⟨r.name, rfl⟩

/-- A record of a term has the type that is read, and any other record has none. -/
theorem Reading.type_of_record? {I : Type} {reading : Reading I} {use : Use} {ident : I}
    {r : Record} (h : reading.record? use ident = some r) :
    r.type = if r.space.isTermLevel then reading.type? ident else none := by
  unfold Reading.record? at h
  obtain ⟨space, -, rfl⟩ := Option.map_eq_some_iff.mp h
  rfl

/-- The type of an entry is that of a name at its span. -/
theorem Module.exists_type_of_mem {I : Type} {m : Module I} {reading : Reading I}
    {config : Config} {phase : Phase} {indexed : Indexed}
    (h : m.indexed reading config phase = .ok indexed) {e : Entry}
    (he : e ∈ indexed.index.entries) :
    ∃ o ∈ m.occurrences, o.ident.loc = .known e.1 ∧
      e.2.type = if e.2.space.isTermLevel then reading.type? o.ident.node else none := by
  obtain ⟨o, plain, ho, hrecord, hmark⟩ :=
    exists_lastAt?_of_get? h (Index.mem_entries_iff.mp he)
  obtain ⟨hmem, -, hloc⟩ := lastAt?_spec ho
  obtain ⟨name, hname⟩ := plain.exists_markAll_eq config (shapesOf o.nodes)
  have htype := Reading.type_of_record? hrecord
  refine ⟨o, hmem, hloc, ?_⟩
  rw [hmark, hname]
  exact htype

/-- Entries of a renamed tree have no types. -/
theorem Module.type_of_mem_resolved {m : Module Name} {config : Config} {phase : Phase}
    {indexed : Indexed} (h : m.indexed .resolved config phase = .ok indexed) {e : Entry}
    (he : e ∈ indexed.index.entries) : e.2.type = none := by
  obtain ⟨o, -, -, htype⟩ := exists_type_of_mem h he
  rw [htype]
  exact ite_self none

/-! ## Types in an extraction -/

variable {T : Type}

/-- The entry has a type exactly where the index of the type-checked tree has an entry for a term.
Its type is then that of a name at its span in this tree. -/
structure Entry.TypedBy (typechecked : Module (TypedName T)) (render : T → String) (typed : Index)
    (e : Entry) : Prop where
  isSome_iff : e.2.type.isSome = true ↔
    typed.contains e.1 = true ∧ e.2.space.isTermLevel = true
  rendered : ∀ text, e.2.type = some text → ∃ o ∈ typechecked.occurrences,
    o.ident.loc = .known e.1 ∧ text = render o.ident.node.type
  none_of_renamed : typed.contains e.1 = false → e.2.type = none
  none_of_typeLevel : e.2.space = .typeVariable ∨ e.2.space = .typeOrClass → e.2.type = none

section

variable {typechecked : Module (TypedName T)} {render : T → String} {config : Config}
  {phase : Phase} {typed : Indexed} {e : Entry}

/-- Entries of the type-checked tree. -/
theorem Entry.typedBy_of_mem (h : typechecked.indexed (.typed render) config phase = .ok typed)
    (he : e ∈ typed.index.entries) : e.TypedBy typechecked render typed.index := by
  obtain ⟨o, ho, hloc, htype⟩ := Module.exists_type_of_mem h he
  have hcontains := Index.contains_of_mem he
  cases hterm : e.2.space.isTermLevel with
  | true =>
    have hsome : e.2.type = some (render o.ident.node.type) := by
      rw [htype, if_pos hterm]
      rfl
    refine ⟨?_, fun text htext => ?_, fun hfree => ?_, fun hspace => ?_⟩
    · rw [hsome, hcontains, hterm]
      exact ⟨fun _ => ⟨rfl, rfl⟩, fun _ => rfl⟩
    · exact ⟨o, ho, hloc, Option.some.inj (htext.symm.trans hsome)⟩
    · rw [hcontains] at hfree
      cases hfree
    · rcases hspace with hspace | hspace <;>
        · rw [hspace] at hterm
          cases hterm
  | false =>
    have hnone : e.2.type = none := by
      rw [htype, hterm]
      rfl
    refine ⟨?_, fun text htext => ?_, fun _ => hnone, fun _ => hnone⟩
    · rw [hnone, hterm]
      exact ⟨nofun, fun hboth => absurd hboth.2 Bool.false_ne_true⟩
    · exact absurd (hnone.symm.trans htext) nofun

/-- Entries without a type at spans that the type-checked tree does not have. -/
theorem Entry.typedBy_of_type_none (hfree : typed.index.contains e.1 = false)
    (hnone : e.2.type = none) : e.TypedBy typechecked render typed.index := by
  refine ⟨?_, fun text htext => ?_, fun _ => hnone, fun _ => hnone⟩
  · rw [hnone, hfree]
    exact ⟨nofun, fun hboth => absurd hboth.1 Bool.false_ne_true⟩
  · exact absurd (hnone.symm.trans htext) nofun

end

/-! ## Hints -/

/-- An entry without a type has no hint. -/
theorem Entry.typeHint?_of_type_none {e : Entry} (h : e.2.type = none) : e.typeHint? = none := by
  unfold typeHint?
  rw [h]
  exact ite_self none

namespace Index

variable {a b : Index}

/-- Entries without types add no hints. -/
theorem typeHints_combine (h : ∀ e ∈ b.entries, e.2.type = none) :
    (a.combine b).typeHints = a.typeHints :=
  filterMap_combine fun e he => Entry.typeHint?_of_type_none (h e he)

/-- Entries without types add no hints in a range. -/
theorem typeHintsIn_combine (h : ∀ e ∈ b.entries, e.2.type = none) (range : Span) :
    (a.combine b).typeHintsIn range = a.typeHintsIn range := by
  unfold typeHintsIn
  rw [List.filterMap_filter, List.filterMap_filter]
  refine filterMap_combine fun e he => ?_
  rw [Entry.typeHint?_of_type_none (h e he)]
  exact ite_self none

end Index

/-- In the index of a file, the types are those of the type-checked tree: an entry has one exactly
where this tree has an entry for a term, and it is the rendered type of a name there. So the hints
of types are those of the type-checked tree alone, of the whole file or in a range. -/
theorem extract_types_of_typechecked (renamed : Module Name) (typechecked : Module (TypedName T))
    (render : T → String) (config : Config) (index : Index)
    (h : extract renamed typechecked render config = .ok index) :
    ∃ typed, typechecked.indexed (.typed render) config .typechecked = .ok typed ∧
      (∀ e ∈ index.entries, e.TypedBy typechecked render typed.index) ∧
      index.typeHints = typed.index.typeHints ∧
      ∀ range, index.typeHintsIn range = typed.index.typeHintsIn range := by
  obtain ⟨first, second, hfirst, hsecond, rfl⟩ := extract_eq_ok_iff.mp h
  have huntyped : ∀ e ∈ first.index.entries, e.2.type = none :=
    fun e he => Module.type_of_mem_resolved hfirst he
  refine ⟨second, hsecond, fun e he => ?_, Index.typeHints_combine huntyped,
    Index.typeHintsIn_combine huntyped⟩
  rcases Index.mem_combine_iff.mp he with htyped | ⟨hfree, hrenamed⟩
  · exact Entry.typedBy_of_mem hsecond htyped
  · exact Entry.typedBy_of_type_none hfree (huntyped e hrenamed)

/-- A module with the signature of two class methods, `f, g :: T`. The location of `g` is given. -/
def methodModule (loc : Location) : Module Name where
  name := none
  decls :=
    [⟨.known (.onLine "T.hs" 1 1 9), .signatureDecl .classOpSig,
      .names [⟨.known (.onLine "T.hs" 1 1 1), .builtIn "f" "var"⟩, ⟨loc, .builtIn "g" "var"⟩]
        (.located (.known (.onLine "T.hs" 1 9 9)) .nameType
          (.name ⟨.known (.onLine "T.hs" 1 9 9), .builtIn "T" "tc"⟩ .nil) .nil)⟩]

/-- The type checker gives types to the names of `f, g :: T`, and does not know where `g` is. In the
index `f` has its type. The name of a type has none, and neither has `g`, though both methods are
bound there. So there is one hint. -/
theorem methodModule_types :
    let renamed := methodModule (.known (.onLine "T.hs" 1 4 4))
    let typechecked := (methodModule (.placeholder "generated")).map
      (TypedName.mk · "Int") (TypedName.mk · "Int")
    ∃ index typed, extract renamed typechecked id {} = .ok index ∧
      typechecked.indexed (.typed id) {} .typechecked = .ok typed ∧
      ((index.entries.map fun e => (e.2.name, e.2.use, e.2.type)) =
          [("f", .binding, some "Int"), ("g", .binding, none), ("T", .reference, none)] ∧
        index.typeHints.map TypeHint.label = [":: Int"]) ∧
      (∀ e ∈ index.entries, e.TypedBy typechecked id typed.index) ∧
      index.typeHints = typed.index.typeHints := by
  intro renamed typechecked
  obtain ⟨index, hindex⟩ : ∃ index, extract renamed typechecked id {} = .ok index := ⟨_, rfl⟩
  obtain ⟨typed, htyped, hentries, hhints, -⟩ :=
    extract_types_of_typechecked renamed typechecked id {} index hindex
  have hlists : ((extract renamed typechecked id {}).toOption.map fun index =>
      (index.entries.map fun e => (e.2.name, e.2.use, e.2.type),
        index.typeHints.map TypeHint.label)) =
      some ([("f", .binding, some "Int"), ("g", .binding, none), ("T", .reference, none)],
        [":: Int"]) := by decide +kernel
  rw [hindex] at hlists
  exact ⟨index, typed, hindex, htyped, Prod.mk.inj (Option.some.inj hlists), hentries, hhints⟩

end Xref
