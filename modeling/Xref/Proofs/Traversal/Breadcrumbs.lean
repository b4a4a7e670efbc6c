import Xref.Proofs.Traversal.AtSpan

/-!
# Breadcrumbs

Breadcrumbs are written into names when a walk leaves a node, one shape after the other, and on all
that it found inside. What comes of it is said in terms of where a name stands: a record that is
defined nowhere in source text has the shapes of all nodes around the name before its own name, the
outermost first, and every other record is left alone (`Record.foldr_mark`). Errors, reports and
spans are the same with breadcrumbs and without, since they are those of the sites
(`Module.indexed_eq_unlessError`), and so is the last name at each span.

Every name lies in a declaration, and declarations have shapes, so a path is never empty
(`Module.shapesOf_ne_nil`).
-/

namespace Xref

open Trace

variable {I : Type}

/-! ## Marked names -/

/-- The text of a path: the names of its shapes, each with a slash after it. -/
def Shape.pathText (shapes : List Shape) : String :=
  shapes.foldr (fun shape text => shape.name ++ "/" ++ text) ""

/-- Marking a record with the shapes of a path, the innermost first, writes the path before its
name. -/
theorem Record.foldr_mark (shapes : List Shape) (r : Record) :
    shapes.foldr Record.mark r =
      if r.definition.isKnown then r
      else { r with name := Shape.pathText shapes ++ r.name } := by
  cases hknown : r.definition.isKnown with
  | true =>
    rw [if_pos rfl]
    induction shapes with
    | nil => rfl
    | cons shape shapes ih => rw [List.foldr_cons, ih, Record.mark, if_pos hknown]
  | false =>
    rw [if_neg Bool.false_ne_true]
    induction shapes with
    | nil =>
      show r = { r with name := "" ++ r.name }
      rw [String.empty_append]
    | cons shape shapes ih =>
      have hpath : Shape.pathText (shape :: shapes) ++ r.name =
          shape.name ++ "/" ++ (Shape.pathText shapes ++ r.name) := String.append_assoc
      rw [List.foldr_cons, ih, Record.mark, if_neg (by simp [hknown]), hpath]

/-- The record `marked` is `plain` with the path before its name, or the same where `plain` is
defined in source text. -/
structure Record.MarkedWith (shapes : List Shape) (plain marked : Record) : Prop where
  others : marked = { plain with name := marked.name }
  name_of_known : plain.definition.isKnown = true → marked.name = plain.name
  name_of_placeholder : plain.definition.isKnown = false →
    marked.name = Shape.pathText shapes ++ plain.name

/-- With breadcrumbs on, a record is marked with the path. -/
theorem Record.markedWith_markAll {config : Config} (h : config.breadcrumbs = true)
    (shapes : List Shape) (r : Record) : MarkedWith shapes r (r.markAll config shapes) := by
  unfold markAll
  rw [if_pos h, foldr_mark]
  cases hknown : r.definition.isKnown with
  | true => exact ⟨rfl, fun _ => rfl, fun hf => absurd (hknown.symm.trans hf) nofun⟩
  | false => exact ⟨rfl, fun ht => absurd (hknown.symm.trans ht) nofun, fun _ => rfl⟩

/-! ## Paths -/

/-- Declarations have shapes. -/
theorem Form.exists_shape_of_decl (form : Form .decl) : ∃ shape, form.shape? = some shape := by
  cases form with
  | valueDecl form => cases form <;> exact ⟨_, rfl⟩
  | signatureDecl form => cases form <;> exact ⟨_, rfl⟩
  | typeDecl form => cases form <;> exact ⟨_, rfl⟩
  | instanceDecl form => cases form <;> exact ⟨_, rfl⟩
  | standaloneDeriving => exact ⟨_, rfl⟩
  | foreignDecl => exact ⟨_, rfl⟩
  | ruleDecl => exact ⟨_, rfl⟩
  | spliceDecl => exact ⟨_, rfl⟩

/-- There is a shape on the path to every name of a module: that of its declaration. -/
theorem Module.shapesOf_ne_nil {m : Module I} {o : Occurrence I} (ho : o ∈ m.occurrences) :
    shapesOf o.nodes ≠ [] := by
  obtain ⟨decl, -, hmem⟩ := List.mem_flatMap.mp (Module.mem_occurrences.mp ho)
  -- A name is not the declaration itself, so it stands among the parts.
  have hinner : Site.name o ∈ decl.node.parts.sites [] ⟨decl.node.form, decl.loc⟩ := by
    rcases List.mem_cons.mp hmem with hdecl | hinner
    · cases hdecl
    · exact hinner
  have haround := (decl.node.parts.sites_rooted [] ⟨decl.node.form, decl.loc⟩).inside _ hinner
  obtain ⟨shape, hshape⟩ := decl.node.form.exists_shape_of_decl
  have hshape' : shape ∈ shapesOf o.nodes :=
    List.mem_filterMap.mpr ⟨⟨decl.node.form, decl.loc⟩, haround.subset (by simp), hshape⟩
  exact List.ne_nil_of_mem hshape'

/-! ## Indexing with and without breadcrumbs -/

section

variable {m : Module I} {reading : Reading I} {mode : Mode} {support : Support} {phase : Phase}
  {marked plain : Indexed}

/-- The spans of an index are those of the last names, with breadcrumbs and without. -/
theorem Module.contains_of_breadcrumbs
    (hmarked : m.indexed reading ⟨mode, true, support⟩ phase = .ok marked)
    (hplain : m.indexed reading ⟨mode, false, support⟩ phase = .ok plain) (span : Span) :
    marked.index.contains span = plain.index.contains span := by
  unfold Index.contains
  rw [get?_of_indexed hmarked, get?_of_indexed hplain]
  show ((m.lastAt? support span).bind _).isSome = ((m.lastAt? support span).bind _).isSome
  cases m.lastAt? support span with
  | none => rfl
  | some o => simp only [Option.bind_some, Option.isSome_map]

/-- At every span the marked record and the plain one are made of the same name, the last one
there. -/
theorem Module.markedWith_of_breadcrumbs
    (hmarked : m.indexed reading ⟨mode, true, support⟩ phase = .ok marked)
    (hplain : m.indexed reading ⟨mode, false, support⟩ phase = .ok plain) {span : Span}
    {r r' : Record} (hr : plain.index.get? span = some r)
    (hr' : marked.index.get? span = some r') :
    ∃ o, m.lastAt? support span = some o ∧ reading.record? o.role o.ident.node = some r ∧
      Record.MarkedWith (shapesOf o.nodes) r r' := by
  obtain ⟨o, base, ho, hbase, heq⟩ := exists_lastAt?_of_get? hplain hr
  obtain ⟨o', base', ho', hbase', heq'⟩ := exists_lastAt?_of_get? hmarked hr'
  have ho_eq : o' = o := Option.some.inj (ho'.symm.trans ho)
  rw [ho_eq] at hbase' heq'
  have hbase_eq : base' = base := Option.some.inj (hbase'.symm.trans hbase)
  have hr_eq : r = base := heq
  rw [heq', hbase_eq, hr_eq]
  exact ⟨o, ho, hbase, Record.markedWith_markAll rfl _ _⟩

end

/-- Indexing with breadcrumbs and indexing without them fail with the same error, or both succeed
with the same reports and the same spans. At each span the two records differ in the name at most.
They have the same name if the definition is in source text, and otherwise the marked name is the
plain one after the shapes of all nodes around the last name at this span, of which there is at
least one. -/
theorem Module.indexed_breadcrumbs_mark_names (m : Module I) (reading : Reading I) (mode : Mode)
    (support : Support) (phase : Phase) :
    (∃ e, m.indexed reading ⟨mode, true, support⟩ phase = .error e ∧
      m.indexed reading ⟨mode, false, support⟩ phase = .error e) ∨
    ∃ marked plain, m.indexed reading ⟨mode, true, support⟩ phase = .ok marked ∧
      m.indexed reading ⟨mode, false, support⟩ phase = .ok plain ∧
      marked.diagnostics = plain.diagnostics ∧
      (∀ span, marked.index.contains span = plain.index.contains span) ∧
      ∀ span r r', plain.index.get? span = some r → marked.index.get? span = some r' →
        ∃ o, m.lastAt? support span = some o ∧ reading.record? o.role o.ident.node = some r ∧
          shapesOf o.nodes ≠ [] ∧ Record.MarkedWith (shapesOf o.nodes) r r' := by
  have hmarked := m.indexed_eq_unlessError reading ⟨mode, true, support⟩ phase
  have hplain := m.indexed_eq_unlessError reading ⟨mode, false, support⟩ phase
  cases herror : m.sites.findSome? (Site.error? reading mode support) with
  | some e =>
    -- Whether a site ends the walk is a matter of the mode and the support only.
    rw [herror] at hmarked hplain
    exact .inl ⟨e, hmarked, hplain⟩
  | none =>
    rw [herror] at hmarked hplain
    refine .inr ⟨_, _, hmarked, hplain, rfl, contains_of_breadcrumbs hmarked hplain, ?_⟩
    intro span r r' hr hr'
    obtain ⟨o, ho, hrecord, hmark⟩ := markedWith_of_breadcrumbs hmarked hplain hr hr'
    exact ⟨o, ho, hrecord, shapesOf_ne_nil (lastAt?_spec ho).1, hmark⟩

/-- The type `T` in the signature `f, g :: T` is defined nowhere in source text. It stands in a type
that stands in a signature, and has the shapes of both before its name. -/
theorem signatureModule_marked :
    let m := signatureModule (.known (.onLine "T.hs" 1 4 4)) "var"
    ∃ marked plain r r', m.indexed .resolved ⟨.strict, true, .full⟩ .renamed = .ok marked ∧
      m.indexed .resolved ⟨.strict, false, .full⟩ .renamed = .ok plain ∧
      plain.index.get? (.onLine "T.hs" 1 9 9) = some r ∧
      marked.index.get? (.onLine "T.hs" 1 9 9) = some r' ∧
      (r.name = "T" ∧ r'.name = "TypeSig/TyVar/T") ∧
      ∃ o, m.lastAt? .full (.onLine "T.hs" 1 9 9) = some o ∧
        Record.MarkedWith (shapesOf o.nodes) r r' := by
  intro m
  obtain ⟨e, he, -⟩ | ⟨marked, plain, hmarked, hplain, -, -, hrecords⟩ :=
    Module.indexed_breadcrumbs_mark_names m .resolved .strict .full .renamed
  · cases he
  · cases hmarked
    cases hplain
    obtain ⟨o, ho, -, -, hmark⟩ := hrecords (.onLine "T.hs" 1 9 9) _ _ rfl rfl
    exact ⟨_, _, _, _, rfl, rfl, rfl, rfl, ⟨rfl, rfl⟩, o, ho, hmark⟩

end Xref
