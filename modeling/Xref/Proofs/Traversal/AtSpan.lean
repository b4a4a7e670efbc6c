import Mathlib.Data.List.Find
import Xref.Proofs.Index.Lookup
import Xref.Proofs.Traversal.Walk

/-!
# What an index holds at a span

A walk writes the records of the names that it meets, and later records go over earlier ones. So an
index holds at each span the record of the last name that was met there (`Module.get?_of_indexed`),
whatever the mode is and with or without breadcrumbs. The last name at a span does not depend on
them: it is found in the list of names of the module, by reach and by place (`Module.lastAt?`).
-/

namespace Xref

open Trace

variable {I : Type} {reading : Reading I}

/-! ## Both modes at once -/

/-- The error that ends a walk at a site, by the mode. -/
def Site.error? (reading : Reading I) (mode : Mode) (support : Support) (s : Site I) :
    Option TraversalError :=
  match mode with
  | .strict => s.fault? reading support
  | .lenient => s.tagError? reading support

/-- In neither mode does a walk get past an unknown tag. -/
theorem Site.tagError?_of_error? {mode : Mode} {support : Support} {s : Site I}
    (h : s.error? reading mode support = none) : s.tagError? reading support = none := by
  cases mode with
  | strict => exact (Option.or_eq_none_iff.mp h).1
  | lenient => exact h

/-- Indexing, site by site. A strict walk that gets to its end has no gaps to report, so the reports
are those of all gaps in both modes. -/
theorem Module.indexed_eq_unlessError (m : Module I) (reading : Reading I) (config : Config)
    (phase : Phase) :
    m.indexed reading config phase =
      unlessError (m.sites.findSome? (Site.error? reading config.mode config.support))
        ⟨.ofPairs (m.sites.filterMap (Site.pair? reading config)),
          (m.sites.filterMap (Site.gap? reading config.support)).map (Gap.diagnostic phase)⟩ := by
  obtain ⟨mode, breadcrumbs, support⟩ := config
  cases mode with
  | lenient => exact m.indexed_lenient reading breadcrumbs support phase
  | strict =>
    rw [m.indexed_strict]
    show _ = unlessError (m.sites.findSome? (Site.fault? reading support)) _
    cases hfault : m.sites.findSome? (Site.fault? reading support) with
    | some e => rfl
    | none =>
      have hgaps : m.sites.filterMap (Site.gap? reading support) = [] := by
        rw [List.filterMap_eq_nil_iff]
        intro s hs
        have hs' := List.findSome?_eq_none_iff.mp hfault s hs
        exact Option.map_eq_none_iff.mp (Option.or_eq_none_iff.mp hs').2
      rw [hgaps]
      rfl

/-! ## The last name at a span -/

/-- A walk meets the name, and it stands at the span. -/
def Occurrence.MetAt (support : Support) (span : Span) (o : Occurrence I) : Prop :=
  Reached support o.nodes ∧ o.ident.loc = .known span

instance (support : Support) (span : Span) (o : Occurrence I) : Decidable (o.MetAt support span) :=
  inferInstanceAs (Decidable (_ ∧ _))

/-- The last name that a walk meets at a span. -/
def Module.lastAt? (m : Module I) (support : Support) (span : Span) : Option (Occurrence I) :=
  m.occurrences.findRev? fun o => o.MetAt support span

/-- The last name at a span is one of the names of the module, and it is met there. -/
theorem Module.lastAt?_spec {m : Module I} {support : Support} {span : Span} {o : Occurrence I}
    (h : m.lastAt? support span = some o) : o ∈ m.occurrences ∧ o.MetAt support span := by
  unfold lastAt? at h
  rw [List.findRev?_eq_find?_reverse] at h
  have hmet := List.find?_some h
  exact ⟨List.mem_reverse.mp (List.mem_of_find?_eq_some h), of_decide_eq_true hmet⟩

/-- A name that was met has a record, if the walk got to its end. -/
theorem Site.exists_record? {support : Support} {o : Occurrence I}
    (h : (Site.name o).tagError? reading support = none) (hreached : Reached support o.nodes) :
    ∃ r, reading.record? o.role o.ident.node = some r := by
  cases hrec : reading.record? o.role o.ident.node with
  | some r => exact ⟨r, rfl⟩
  | none =>
    have hunknown := Reading.record?_eq_none_iff.mp hrec
    rw [Site.tagError?_name_eq_some_iff.mpr ⟨hreached, hunknown, rfl⟩] at h
    cases h

/-- A site writes a span exactly if it is a name that is met there. -/
theorem Site.writes_iff_metAt {config : Config} {s : Site I}
    (h : s.tagError? reading config.support = none) (span : Span) :
    (s.pair? reading config).any (fun e => e.1 = span) =
      s.occurrence?.any fun o => o.MetAt config.support span := by
  cases s with
  | node outer n => rfl
  | name o =>
    rw [Bool.eq_iff_iff, Option.any_eq_true]
    simp only [Site.pair?_eq_some_iff, Site.occurrence?, Option.any_some, decide_eq_true_eq]
    constructor
    · rintro ⟨e, ⟨o', e', ho, hreached, hpair, rfl⟩, hspan⟩
      cases ho
      obtain ⟨hloc, -⟩ := Occurrence.pair?_eq_some_iff.mp hpair
      exact ⟨hreached, hspan ▸ hloc⟩
    · rintro ⟨hreached, hloc⟩
      obtain ⟨r, hrec⟩ := Site.exists_record? h hreached
      have hpair : o.pair? reading = some (span, r) :=
        Occurrence.pair?_eq_some_iff.mpr ⟨hloc, hrec⟩
      exact ⟨_, ⟨o, (span, r), rfl, hreached, hpair, rfl⟩, rfl⟩

namespace Module

variable {m : Module I} {config : Config} {phase : Phase} {indexed : Indexed}

/-- At the end of a walk no name that was met has an unknown tag. -/
theorem tagError?_of_indexed (h : m.indexed reading config phase = .ok indexed) :
    ∀ s ∈ m.sites, s.tagError? reading config.support = none := by
  rw [indexed_eq_unlessError, unlessError_eq_ok_iff, List.findSome?_eq_none_iff] at h
  exact fun s hs => Site.tagError?_of_error? (h.1 s hs)

/-- An index holds at a span the record of the last name that was met there, with the breadcrumbs
of the nodes around it. -/
theorem get?_of_indexed (h : m.indexed reading config phase = .ok indexed) (span : Span) :
    indexed.index.get? span =
      (m.lastAt? config.support span).bind fun o =>
        (reading.record? o.role o.ident.node).map (Record.markAll config (shapesOf o.nodes)) := by
  have htags := tagError?_of_indexed h
  rw [indexed_eq_unlessError, unlessError_eq_ok_iff] at h
  obtain ⟨-, rfl⟩ := h
  -- Both sides search the sites from the end, and stop at the same one.
  have hsame : m.sites.reverse.find? (fun s => (s.pair? reading config).any fun e => e.1 = span) =
      m.sites.reverse.find? fun s => s.occurrence?.any fun o => o.MetAt config.support span :=
    List.find?_congr fun s hs => Site.writes_iff_metAt (htags s (List.mem_reverse.mp hs)) span
  rw [Index.get?_ofPairs, ← List.filterMap_reverse, List.find?_filterMap, hsame, lastAt?,
    List.findRev?_eq_find?_reverse, occurrences, ← List.filterMap_reverse, List.find?_filterMap]
  cases hfind : m.sites.reverse.find?
      (fun s => s.occurrence?.any fun o => o.MetAt config.support span) with
  | none => rfl
  | some s =>
    have hmet := List.find?_some hfind
    cases s with
    | node outer n => cases hmet
    | name o =>
      obtain ⟨hreached, hloc⟩ : o.MetAt config.support span := of_decide_eq_true hmet
      show ((Site.name o).pair? reading config).map Prod.snd = _
      rw [Site.pair?, if_pos hreached, Occurrence.pair?, hloc]
      simp only [Option.map_map, Option.bind_some, Site.occurrence?]
      rfl

/-- Every span of an index is that of a last name. -/
theorem exists_lastAt?_of_get? (h : m.indexed reading config phase = .ok indexed) {span : Span}
    {r : Record} (hr : indexed.index.get? span = some r) :
    ∃ o plain, m.lastAt? config.support span = some o ∧
      reading.record? o.role o.ident.node = some plain ∧
      r = plain.markAll config (shapesOf o.nodes) := by
  rw [get?_of_indexed h] at hr
  obtain ⟨o, ho, hrecord⟩ := Option.bind_eq_some_iff.mp hr
  obtain ⟨plain, hplain, hmark⟩ := Option.map_eq_some_iff.mp hrecord
  exact ⟨o, plain, ho, hplain, hmark.symm⟩

end Module

end Xref
