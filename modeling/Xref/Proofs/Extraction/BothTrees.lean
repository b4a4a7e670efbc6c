import Xref.Extraction
import Xref.Proofs.Index.Union
import Xref.Proofs.Traversal.Identifiers
import Xref.Proofs.Traversal.Walk

/-!
# Extraction from both trees

An extraction succeeds exactly if both trees of a file can be indexed, and is then the union of
their indices with the reports of both (`extractWithReports_eq_ok_iff`). If it fails, the error is
that of the renamed tree (`extractWithReports_of_renamed_error`), or that of the type-checked tree
where the renamed one could be indexed (`extractWithReports_of_typechecked_error`). The short forms
of an extraction keep the index and forget the rest (`extract_eq_ok_iff`, `extract?_eq_some_iff`).
-/

namespace Xref

/-! ## Reports of one tree -/

namespace Module

variable {I : Type} {m : Module I} {reading : Reading I} {config : Config} {phase : Phase}
  {r : Indexed}

/-- The reports of a tree say which tree they are about. -/
theorem phase_of_mem_diagnostics (h : m.indexed reading config phase = .ok r) {d : Diagnostic}
    (hd : d ∈ r.diagnostics) : d.phase = phase := by
  unfold Module.indexed at h
  cases htrace : m.outline.trace reading config with
  | error e =>
    rw [htrace] at h
    cases h
  | ok t =>
    rw [htrace] at h
    cases h
    obtain ⟨gap, -, rfl⟩ := List.mem_map.mp hd
    cases gap <;> rfl

/-- Strict indexing reports nothing. -/
theorem diagnostics_of_strict (hmode : config.mode = .strict)
    (h : m.indexed reading config phase = .ok r) : r.diagnostics = [] := by
  obtain ⟨mode, breadcrumbs, support⟩ := config
  cases hmode
  rw [indexed_strict, Trace.unlessError_eq_ok_iff] at h
  rw [h.2]

end Module

/-! ## Both trees -/

section

variable {T : Type} {renamed : Module Name} {typechecked : Module (TypedName T)}
  {render : T → String} {config : Config}

/-- Where both trees can be indexed, an extraction has the union of their indices and the reports
of both. -/
theorem extractWithReports_of_ok {first second : Indexed}
    (hfirst : renamed.indexed .resolved config .renamed = .ok first)
    (hsecond : typechecked.indexed (.typed render) config .typechecked = .ok second) :
    extractWithReports renamed typechecked render config =
      .ok ⟨second.index.combine first.index, first.diagnostics ++ second.diagnostics⟩ := by
  unfold extractWithReports
  rw [hfirst, hsecond]
  rfl

/-- The error of the renamed tree is told, whatever the other tree is. -/
theorem extractWithReports_of_renamed_error {e : TraversalError}
    (h : renamed.indexed .resolved config .renamed = .error e) :
    extractWithReports renamed typechecked render config = .error ⟨.renamed, e⟩ := by
  unfold extractWithReports
  rw [h]
  rfl

/-- The error of the type-checked tree is told where the renamed tree has none. -/
theorem extractWithReports_of_typechecked_error {first : Indexed} {e : TraversalError}
    (hfirst : renamed.indexed .resolved config .renamed = .ok first)
    (h : typechecked.indexed (.typed render) config .typechecked = .error e) :
    extractWithReports renamed typechecked render config = .error ⟨.typechecked, e⟩ := by
  unfold extractWithReports
  rw [hfirst, h]
  rfl

/-- An extraction succeeds exactly if both trees can be indexed. -/
theorem extractWithReports_eq_ok_iff {r : Indexed} :
    extractWithReports renamed typechecked render config = .ok r ↔
      ∃ first second, renamed.indexed .resolved config .renamed = .ok first ∧
        typechecked.indexed (.typed render) config .typechecked = .ok second ∧
        r = ⟨second.index.combine first.index, first.diagnostics ++ second.diagnostics⟩ := by
  constructor
  · intro h
    cases hfirst : renamed.indexed .resolved config .renamed with
    | error e =>
      rw [extractWithReports_of_renamed_error hfirst] at h
      cases h
    | ok first =>
      cases hsecond : typechecked.indexed (.typed render) config .typechecked with
      | error e =>
        rw [extractWithReports_of_typechecked_error hfirst hsecond] at h
        cases h
      | ok second =>
        rw [extractWithReports_of_ok hfirst hsecond] at h
        exact ⟨first, second, rfl, rfl, (Except.ok.inj h).symm⟩
  · rintro ⟨first, second, hfirst, hsecond, rfl⟩
    exact extractWithReports_of_ok hfirst hsecond

/-- An extraction fails exactly if one of the trees cannot be indexed. -/
theorem extractWithReports_fails_iff :
    (∃ e, extractWithReports renamed typechecked render config = .error e) ↔
      (∃ e, renamed.indexed .resolved config .renamed = .error e) ∨
        ∃ e, typechecked.indexed (.typed render) config .typechecked = .error e := by
  constructor
  · rintro ⟨e, he⟩
    cases hfirst : renamed.indexed .resolved config .renamed with
    | error e' => exact .inl ⟨e', rfl⟩
    | ok first =>
      cases hsecond : typechecked.indexed (.typed render) config .typechecked with
      | error e' => exact .inr ⟨e', rfl⟩
      | ok second =>
        rw [extractWithReports_of_ok hfirst hsecond] at he
        cases he
  · rintro (⟨e, he⟩ | ⟨e, he⟩)
    · exact ⟨_, extractWithReports_of_renamed_error he⟩
    · cases hfirst : renamed.indexed .resolved config .renamed with
      | error e' => exact ⟨_, extractWithReports_of_renamed_error hfirst⟩
      | ok first => exact ⟨_, extractWithReports_of_typechecked_error hfirst he⟩

/-- The index of an extraction is that of the union. -/
theorem extract_eq_ok_iff {index : Index} :
    extract renamed typechecked render config = .ok index ↔
      ∃ first second, renamed.indexed .resolved config .renamed = .ok first ∧
        typechecked.indexed (.typed render) config .typechecked = .ok second ∧
        index = second.index.combine first.index := by
  unfold extract
  constructor
  · intro h
    cases hresult : extractWithReports renamed typechecked render config with
    | error e =>
      rw [hresult] at h
      cases h
    | ok r =>
      rw [hresult] at h
      cases h
      obtain ⟨first, second, hfirst, hsecond, rfl⟩ := extractWithReports_eq_ok_iff.mp hresult
      exact ⟨first, second, hfirst, hsecond, rfl⟩
  · rintro ⟨first, second, hfirst, hsecond, rfl⟩
    rw [extractWithReports_of_ok hfirst hsecond]
    rfl

/-- Where an extraction fails there is no index. -/
theorem extract?_eq_none_iff :
    extract? renamed typechecked render config = none ↔
      ∃ e, extractWithReports renamed typechecked render config = .error e := by
  unfold extract? extract
  cases extractWithReports renamed typechecked render config with
  | error e => exact ⟨fun _ => ⟨e, rfl⟩, fun _ => rfl⟩
  | ok r =>
    constructor
    · intro h
      cases h
    · rintro ⟨e, he⟩
      cases he

/-- Where an extraction succeeds, its index is the one that there is. -/
theorem extract?_eq_some_iff {index : Index} :
    extract? renamed typechecked render config = some index ↔
      ∃ r, extractWithReports renamed typechecked render config = .ok r ∧ r.index = index := by
  unfold extract? extract
  cases extractWithReports renamed typechecked render config with
  | error e =>
    constructor
    · intro h
      cases h
    · rintro ⟨r, hr, -⟩
      cases hr
  | ok r =>
    constructor
    · intro h
      exact ⟨r, rfl, Option.some.inj h⟩
    · rintro ⟨r', hr', rfl⟩
      cases hr'
      rfl

end

/-! ## The contract -/

/-- The result `r` is made of the results `first` of the renamed tree and `second` of the
type-checked one: the records of the second count, the first fills the rest, and the reports of the
first come before those of the second, each labelled with its tree. -/
structure Indexed.Merges (first second r : Indexed) : Prop where
  record : ∀ s, r.index.get? s = (second.index.get? s).or (first.index.get? s)
  spans : ∀ s, r.index.contains s = true ↔
    second.index.contains s = true ∨ first.index.contains s = true
  reports : r.diagnostics = first.diagnostics ++ second.diagnostics
  renamed : ∀ d ∈ first.diagnostics, d.phase = .renamed
  typechecked : ∀ d ∈ second.diagnostics, d.phase = .typechecked

/-- An extraction fails exactly if one of the trees cannot be indexed. The error of the renamed tree
goes before that of the type-checked tree, and each is told with its tree. There is no index exactly
in these cases. If both trees can be indexed, the extraction merges their results, and in strict
mode nothing is reported. -/
theorem extractWithReports_merges {T : Type} (renamed : Module Name)
    (typechecked : Module (TypedName T)) (render : T → String) (config : Config) :
    let first := renamed.indexed .resolved config .renamed
    let second := typechecked.indexed (.typed render) config .typechecked
    let result := extractWithReports renamed typechecked render config
    ((∃ e, result = .error e) ↔ (∃ e, first = .error e) ∨ ∃ e, second = .error e) ∧
    (∀ e, first = .error e → result = .error ⟨.renamed, e⟩) ∧
    (∀ a e, first = .ok a → second = .error e → result = .error ⟨.typechecked, e⟩) ∧
    (extract? renamed typechecked render config = none ↔ ∃ e, result = .error e) ∧
    (∀ index, extract? renamed typechecked render config = some index ↔
      ∃ r, result = .ok r ∧ r.index = index) ∧
    ∀ a b, first = .ok a → second = .ok b →
      ∃ r, result = .ok r ∧ Indexed.Merges a b r ∧ (config.mode = .strict → r.diagnostics = []) := by
  refine ⟨extractWithReports_fails_iff, fun e => extractWithReports_of_renamed_error,
    fun a e => extractWithReports_of_typechecked_error, extract?_eq_none_iff,
    fun index => extract?_eq_some_iff, ?_⟩
  intro a b ha hb
  refine ⟨_, extractWithReports_of_ok ha hb, ⟨?_, ?_, rfl, ?_, ?_⟩, ?_⟩
  · exact Index.get?_combine b.index a.index
  · intro s
    rw [Index.contains_combine, Bool.or_eq_true]
  · exact fun d => Module.phase_of_mem_diagnostics ha
  · exact fun d => Module.phase_of_mem_diagnostics hb
  · intro hmode
    show a.diagnostics ++ b.diagnostics = []
    rw [Module.diagnostics_of_strict hmode ha, Module.diagnostics_of_strict hmode hb]
    rfl

/-- The type checker gives types to the names of the signature `f, g :: T`, and does not know where
`g` is. The record of `g` is that of the renamed tree, and the gap is reported. -/
theorem signatureModule_merged :
    let renamed := signatureModule (.known (.onLine "T.hs" 1 4 4)) "var"
    let typechecked := (signatureModule (.placeholder "generated") "var").map
      (TypedName.mk · "Int") (TypedName.mk · "Int")
    ∃ first second r, renamed.indexed .resolved {} .renamed = .ok first ∧
      typechecked.indexed (.typed id) {} .typechecked = .ok second ∧
      extractWithReports renamed typechecked id {} = .ok r ∧
      (r.index.size = 3 ∧ r.diagnostics.length = 1) ∧ Indexed.Merges first second r := by
  intro renamed typechecked
  obtain ⟨-, -, -, -, -, hboth⟩ := extractWithReports_merges renamed typechecked id {}
  obtain ⟨first, hfirst⟩ : ∃ first, renamed.indexed .resolved {} .renamed = .ok first := ⟨_, rfl⟩
  obtain ⟨second, hsecond⟩ :
      ∃ second, typechecked.indexed (.typed id) {} .typechecked = .ok second := ⟨_, rfl⟩
  obtain ⟨r, hr, hmerges, -⟩ := hboth first second hfirst hsecond
  have hsizes : ((extractWithReports renamed typechecked id {}).toOption.map fun r =>
      (r.index.size, r.diagnostics.length)) = some (3, 1) := by decide +kernel
  rw [hr] at hsizes
  exact ⟨first, second, r, hfirst, hsecond, hr, Prod.mk.inj (Option.some.inj hsizes), hmerges⟩

end Xref
