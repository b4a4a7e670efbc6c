import Mathlib.Logic.ExistsUnique
import Xref.Proofs.Index.Lookup
import Xref.Proofs.Traversal.Walk

/-!
# Lenient indexing accounts for every name

In lenient mode nothing is lost in silence and nothing is made up. Every name with a location meets
exactly one `Fate`: it lies in a node that was passed over, and the outermost such node was
reported; or it was met without a place, and was reported itself; or its span is in the index. In
the other direction every entry comes from a name that was met, and the reports are those of the
sites, in the order of the text.

The loop over sites (`Module.indexed_lenient`) gives entries and reports site by site. What is left
is that the node which hides a name is a site of the module, too
(`Module.exists_unsupported_around`).
-/

namespace Xref

variable {I : Type}

/-- What becomes of a name in lenient mode. -/
inductive Fate where
  /-- It lies in a node that was passed over. -/
  | skipped
  /-- It was met, and has no known place. -/
  | unplaced
  /-- It was met, and its place is in the index. -/
  | indexed

/-- An occurrence has the given fate in the result `r` of indexing the module `m`, with the report
or the entry that belongs to it. -/
def Occurrence.Meets (m : Module I) (reading : Reading I) (support : Support) (phase : Phase)
    (r : Indexed) (o : Occurrence I) : Fate → Prop
  -- The node `n` is the outermost one of an unsupported shape, and was reported.
  | .skipped => ∃ outer n shape, outer ++ [n] <+: o.nodes ∧ .node outer n ∈ m.sites ∧
      Reached support outer ∧ n.shape? = some shape ∧ support.supports shape = false ∧
      (Gap.unsupported shape n.loc).diagnostic phase ∈ r.diagnostics
  | .unplaced => Reached support o.nodes ∧ ∃ description, o.ident.loc = .placeholder description ∧
      (Gap.imprecise (reading.name o.ident.node).text description).diagnostic phase ∈ r.diagnostics
  | .indexed => Reached support o.nodes ∧ ∃ span, o.ident.loc = .known span ∧
      r.index.contains span = true

namespace Occurrence

variable {m : Module I} {reading : Reading I} {support : Support} {phase : Phase} {r : Indexed}
  {o : Occurrence I}

/-- A name that was passed over was not reached. -/
theorem not_reached_of_skipped (h : o.Meets m reading support phase r .skipped) :
    ¬ Reached support o.nodes := by
  obtain ⟨outer, n, shape, haround, -, -, hshape, hsupp, -⟩ := h
  exact not_reached_of_mem (haround.subset (by simp)) hshape hsupp

/-- The fates exclude each other. -/
theorem fate_unique {f g : Fate} (hf : o.Meets m reading support phase r f)
    (hg : o.Meets m reading support phase r g) : f = g := by
  cases f with
  | skipped =>
    have hnot := not_reached_of_skipped hf
    cases g with
    | skipped => rfl
    | unplaced => exact absurd hg.1 hnot
    | indexed => exact absurd hg.1 hnot
  | unplaced =>
    obtain ⟨hreached, description, hloc, -⟩ := hf
    cases g with
    | skipped => exact absurd hreached (not_reached_of_skipped hg)
    | unplaced => rfl
    | indexed =>
      obtain ⟨-, span, hspan, -⟩ := hg
      rw [hloc] at hspan
      cases hspan
  | indexed =>
    obtain ⟨hreached, span, hspan, -⟩ := hf
    cases g with
    | skipped => exact absurd hreached (not_reached_of_skipped hg)
    | unplaced =>
      obtain ⟨-, description, hloc, -⟩ := hg
      rw [hloc] at hspan
      cases hspan
    | indexed => rfl

end Occurrence

/-- The gap of every site is reported. -/
theorem mem_diagnostics_of_gap? {sites : List (Site I)} {reading : Reading I} {support : Support}
    {s : Site I} {gap : Gap} (hs : s ∈ sites) (hgap : s.gap? reading support = some gap)
    (phase : Phase) :
    gap.diagnostic phase ∈
      (sites.filterMap (Site.gap? reading support)).map (Gap.diagnostic phase) :=
  List.mem_map_of_mem (List.mem_filterMap.mpr ⟨s, hs, hgap⟩)

section

variable {m : Module I} {reading : Reading I} {support : Support} {phase : Phase} {r : Indexed}

/-- Every name meets a fate. -/
theorem Module.exists_fate (h : m.indexed reading ⟨.lenient, false, support⟩ phase = .ok r)
    {o : Occurrence I} (ho : o ∈ m.occurrences) :
    ∃ fate, o.Meets m reading support phase r fate := by
  rw [Module.indexed_lenient, Trace.unlessError_eq_ok_iff] at h
  obtain ⟨htags, rfl⟩ := h
  have hs := Module.mem_occurrences.mp ho
  by_cases hreached : Reached support o.nodes
  · cases hloc : o.ident.loc with
    | placeholder description =>
      refine ⟨.unplaced, hreached, description, hloc, ?_⟩
      exact mem_diagnostics_of_gap? hs
        (Site.gap?_name_eq_some_iff.mpr ⟨description, hloc, hreached, rfl⟩) phase
    | known span =>
      -- The walk met the name and did not fail, so the tag is known.
      have htag := List.findSome?_eq_none_iff.mp htags _ hs
      cases hrec : reading.record? o.role o.ident.node with
      | none =>
        have hunknown := Reading.record?_eq_none_iff.mp hrec
        rw [Site.tagError?_name_eq_some_iff.mpr ⟨hreached, hunknown, rfl⟩] at htag
        cases htag
      | some record =>
        refine ⟨.indexed, hreached, span, hloc, Index.contains_ofPairs.mpr ?_⟩
        refine ⟨(span, record), List.mem_filterMap.mpr ⟨_, hs, ?_⟩, rfl⟩
        have hpair : o.pair? reading = some (span, record) :=
          Occurrence.pair?_eq_some_iff.mpr ⟨hloc, hrec⟩
        exact Site.pair?_eq_some_iff.mpr ⟨o, (span, record), rfl, hreached, hpair, rfl⟩
  · obtain ⟨outer, n, shape, haround, hnode, houter, hshape, hsupp⟩ :=
      Module.exists_unsupported_around hs hreached
    refine ⟨.skipped, outer, n, shape, haround, hnode, houter, hshape, hsupp, ?_⟩
    exact mem_diagnostics_of_gap? hnode
      (Site.gap?_node_eq_some_iff.mpr ⟨shape, hshape, houter, hsupp, rfl⟩) phase

/-- Every entry is the record of a name that was met. -/
theorem Module.exists_origin (h : m.indexed reading ⟨.lenient, false, support⟩ phase = .ok r)
    {e : Entry} (he : e ∈ r.index.entries) :
    ∃ o ∈ m.occurrences, Reached support o.nodes ∧ o.ident.loc = .known e.1 ∧
      reading.record? o.role o.ident.node = some e.2 := by
  rw [Module.indexed_lenient, Trace.unlessError_eq_ok_iff] at h
  obtain ⟨-, rfl⟩ := h
  obtain ⟨s, hs, hpair⟩ := List.mem_filterMap.mp (Index.mem_of_mem_entries_ofPairs he)
  obtain ⟨o, e', rfl, hreached, hpair', rfl⟩ := Site.pair?_eq_some_iff.mp hpair
  exact ⟨o, Module.mem_occurrences.mpr hs, hreached, Occurrence.pair?_eq_some_iff.mp hpair'⟩

end

/-- Lenient indexing without breadcrumbs, when it succeeds, accounts for all names: each one meets
exactly one fate; each entry is the record of a name that was met, at its span and with the role of
its position; and the reports are the gaps of the sites, in the order of the text. -/
theorem Module.indexed_lenient_accounts (m : Module I) (reading : Reading I) (support : Support)
    (phase : Phase) (r : Indexed)
    (h : m.indexed reading ⟨.lenient, false, support⟩ phase = .ok r) :
    (∀ o ∈ m.occurrences, ∃! fate, o.Meets m reading support phase r fate) ∧
    (∀ e ∈ r.index.entries, ∃ o ∈ m.occurrences, Reached support o.nodes ∧
      o.ident.loc = .known e.1 ∧ reading.record? o.role o.ident.node = some e.2) ∧
    r.diagnostics = (m.sites.filterMap (Site.gap? reading support)).map (Gap.diagnostic phase) := by
  refine ⟨fun o ho => ?_, fun e he => Module.exists_origin h he, ?_⟩
  · obtain ⟨fate, hfate⟩ := Module.exists_fate h ho
    exact ⟨fate, hfate, fun other hother => Occurrence.fate_unique hother hfate⟩
  · rw [Module.indexed_lenient, Trace.unlessError_eq_ok_iff] at h
    obtain ⟨-, rfl⟩ := h
    rfl

/-- Where the types of names are not supported, `f` of the signature is indexed, `g` has no place,
and `T` is passed over. -/
theorem signatureModule_accounts :
    let m := signatureModule (.placeholder "generated") "var"
    ∃ r, m.indexed .resolved ⟨.lenient, false, .disable .full .nameType⟩ .renamed = .ok r ∧
      m.occurrences.length = 3 ∧ r.index.size = 1 ∧ r.diagnostics.length = 2 ∧
      ∀ o ∈ m.occurrences,
        ∃! fate, o.Meets m .resolved (.disable .full .nameType) .renamed r fate :=
  ⟨_, rfl, rfl, rfl, rfl, (Module.indexed_lenient_accounts _ _ _ _ _ rfl).1⟩

end Xref
