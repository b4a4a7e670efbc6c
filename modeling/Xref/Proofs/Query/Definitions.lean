import Mathlib.Data.List.Induction
import Xref.Proofs.FirstOccurrence
import Xref.Proofs.Query.Nesting

/-!
# Going to definitions

The targets at a position are those of the entries there, taken from the inside outwards, each span
once. By induction on the targets, the last one first, the spans are in the order of their first
occurrences (`Target.distinct_inFirstOrder`), and for each span the first target is kept
(`Target.find?_of_mem_distinct`), so its name is that of the innermost entry that leads there.

The first target of all is kept as well (`Target.head?_distinct`). If the innermost entry leads
somewhere, this is its target.
-/

namespace Xref

/-! ## Where entries lead -/

/-- The span where the name of a reference is defined, if it is defined in source text. -/
def Entry.leadsTo? (e : Entry) : Option Span :=
  match e.2.use, e.2.definition with
  | .reference, .known span => some span
  | _, _ => none

theorem Entry.leadsTo?_eq_some_iff {e : Entry} {d : Span} :
    e.leadsTo? = some d ↔ e.2.use = .reference ∧ e.2.definition = .known d := by
  unfold leadsTo?
  cases e.2.use <;> cases e.2.definition <;> simp

theorem Entry.target?_eq_map_leadsTo? (e : Entry) :
    e.2.target? = e.leadsTo?.map fun span => ⟨e.2.name, span⟩ := by
  unfold Record.target? leadsTo?
  cases e.2.use with
  | binding => rfl
  | reference => cases e.2.definition <;> rfl

/-- Targets are found at the spans where entries lead. -/
theorem Entry.any_target? (e : Entry) (d : Span) :
    (e.2.target?.any fun t => t.span = d) = decide (e.leadsTo? = some d) := by
  rw [target?_eq_map_leadsTo?]
  cases e.leadsTo? <;> simp

namespace Target

/-! ## Distinct targets -/

theorem distinct_concat (targets : List Target) (t : Target) :
    distinct (targets ++ [t]) = addNew (distinct targets) t := by
  unfold distinct
  rw [List.foldl_append, List.foldl_cons, List.foldl_nil]

theorem any_span_iff {targets : List Target} {d : Span} :
    (targets.any fun t => t.span = d) = true ↔ d ∈ targets.map span := by
  simp

theorem map_span_addNew (targets : List Target) (t : Target) :
    (addNew targets t).map span =
      if t.span ∈ targets.map span then targets.map span else targets.map span ++ [t.span] := by
  unfold addNew
  by_cases hmem : t.span ∈ targets.map span
  · rw [if_pos (any_span_iff.mpr hmem), if_pos hmem]
  · rw [if_neg (mt any_span_iff.mp hmem), if_neg hmem, List.map_append, List.map_singleton]

/-- The spans of the targets are kept once each, in the order of their first occurrences. -/
theorem distinct_inFirstOrder (targets : List Target) :
    InFirstOrder ((distinct targets).map span) (targets.map span) := by
  induction targets using List.reverseRecOn with
  | nil => exact ⟨List.nodup_nil, fun _ => Iff.rfl, List.Pairwise.nil⟩
  | append_singleton targets t ih =>
    rw [distinct_concat, map_span_addNew, List.map_append]
    exact ih.concat t.span

/-- For each span the first target is kept. -/
theorem find?_of_mem_distinct {targets : List Target} {t : Target} (h : t ∈ distinct targets) :
    (targets.find? fun u => u.span = t.span) = some t := by
  induction targets using List.reverseRecOn with
  | nil => cases h
  | append_singleton targets u ih =>
    have hspans := (distinct_inFirstOrder targets).mem_iff u.span
    rw [distinct_concat, addNew] at h
    rw [List.find?_append]
    by_cases hmem : u.span ∈ (distinct targets).map span
    · rw [if_pos (any_span_iff.mpr hmem)] at h
      rw [ih h, Option.some_or]
    · rw [if_neg (mt any_span_iff.mp hmem), List.mem_append, List.mem_singleton] at h
      rcases h with h | rfl
      · rw [ih h, Option.some_or]
      · -- No target before has this span, so the search gets as far as this one.
        have hnone : (targets.find? fun u => u.span = t.span) = none := by
          rw [List.find?_eq_none]
          intro u hu huspan
          refine hmem (hspans.mpr ?_)
          rw [← of_decide_eq_true huspan]
          exact List.mem_map_of_mem hu
        rw [hnone, Option.none_or, List.find?_singleton, if_pos (decide_eq_true rfl)]

theorem head?_addNew (targets : List Target) (t : Target) :
    (addNew targets t).head? = targets.head?.or (some t) := by
  unfold addNew
  split
  · next hany =>
    cases targets with
    | nil => cases hany
    | cons first rest => rfl
  · rw [List.head?_append, List.head?_cons]

/-- The first target is kept. -/
theorem head?_distinct (targets : List Target) : (distinct targets).head? = targets.head? := by
  induction targets using List.reverseRecOn with
  | nil => rfl
  | append_singleton targets t ih =>
    rw [distinct_concat, head?_addNew, ih, List.head?_append, List.head?_cons]

end Target

namespace Index

/-! ## The targets at a position -/

/-- The targets are at the spans where the entries lead, in the order in which they first do. -/
theorem definitionsAt_inFirstOrder (index : Index) (p : Position) :
    InFirstOrder ((index.definitionsAt p).map Target.span)
      ((index.nestedAt p).filterMap Entry.leadsTo?) := by
  have hspans : ((index.nestedAt p).filterMap fun e => e.2.target?).map Target.span =
      (index.nestedAt p).filterMap Entry.leadsTo? := by
    rw [List.map_filterMap]
    refine List.filterMap_congr fun e _ => ?_
    rw [Entry.target?_eq_map_leadsTo?, Option.map_map]
    exact Option.map_id_apply
  rw [← hspans]
  exact Target.distinct_inFirstOrder _

/-- A target has the name of the first entry that leads there. -/
theorem exists_first_of_mem_definitionsAt {index : Index} {p : Position} {t : Target}
    (h : t ∈ index.definitionsAt p) :
    ∃ e, ((index.nestedAt p).find? fun e => e.leadsTo? = some t.span) = some e ∧
      e.2.name = t.name := by
  have hfirst := Target.find?_of_mem_distinct h
  simp only [List.find?_filterMap, Entry.any_target?] at hfirst
  obtain ⟨e, he, htarget⟩ := Option.bind_eq_some_iff.mp hfirst
  rw [Entry.target?_eq_map_leadsTo?] at htarget
  obtain ⟨d, -, rfl⟩ := Option.map_eq_some_iff.mp htarget
  exact ⟨e, he, rfl⟩

/-- If the innermost entry leads somewhere, the first target is there. -/
theorem head?_definitionsAt {index : Index} {p : Position} {e : Entry} {d : Span}
    (he : index.innermostAt p = some e) (hd : e.leadsTo? = some d) :
    (index.definitionsAt p).head? = some ⟨e.2.name, d⟩ := by
  rw [← head?_nestedAt, List.head?_eq_some_iff] at he
  obtain ⟨others, hothers⟩ := he
  have htarget : e.2.target? = some ⟨e.2.name, d⟩ := by
    rw [Entry.target?_eq_map_leadsTo?, hd, Option.map_some]
  rw [definitionsAt, Target.head?_distinct, hothers]
  simp only [List.filterMap_cons, htarget, List.head?_cons]

/-- Going to definitions is exact. The entries that contain the position, by extent and then by
span, lead to spans, from references whose definition is known; the targets are at these spans, each
of them once, in the order of the first entry that leads there, and have the name of that entry. The
first of these entries is the innermost one, which is hovered over, and if it leads somewhere the
first target is there. -/
theorem definitionsAt_exact (index : Index) (p : Position) :
    (index.nestedAt p).Perm (index.entries.filter fun e => e.1.contains p) ∧
    (index.nestedAt p).Pairwise Entry.Precedes ∧
    (∀ (e : Entry) d, e.leadsTo? = some d ↔ e.2.use = .reference ∧ e.2.definition = .known d) ∧
    InFirstOrder ((index.definitionsAt p).map Target.span)
      ((index.nestedAt p).filterMap Entry.leadsTo?) ∧
    (∀ t ∈ index.definitionsAt p,
      ∃ e, ((index.nestedAt p).find? fun e => e.leadsTo? = some t.span) = some e ∧
        e.2.name = t.name) ∧
    (index.nestedAt p).head? = index.innermostAt p ∧
    (index.nestedAt p).head?.map (fun e => ⟨e.2.hoverText, e.1⟩) = index.hover p ∧
    (∀ e d, index.innermostAt p = some e → e.2.use = .reference → e.2.definition = .known d →
      (index.definitionsAt p).head? = some ⟨e.2.name, d⟩) := by
  refine ⟨index.nestedAt_perm p, index.nestedAt_pairwise p, fun e d => Entry.leadsTo?_eq_some_iff,
    index.definitionsAt_inFirstOrder p, fun t ht => exists_first_of_mem_definitionsAt ht,
    index.head?_nestedAt p, ?_, fun e d he huse hknown => ?_⟩
  · rw [head?_nestedAt, hover]
  · exact head?_definitionsAt he (Entry.leadsTo?_eq_some_iff.mpr ⟨huse, hknown⟩)

/-- A name in the first line of a file, and the line in which it is defined. -/
def lineEntry (name : String) (use : Use) (first last definition : Coordinate) : Entry :=
  (.onLine "T" 1 first last,
    ⟨name, none, none, .value, none, .known (.onLine "T" definition 1 1), use⟩)

/-- Four names that share a column. Two of them are as long as each other and defined together. -/
def overlappingIndex : Index :=
  ofPairs [lineEntry "x" .reference 1 10 7, lineEntry "f" .binding 1 9 8,
    lineEntry "y" .reference 3 5 9, lineEntry "z" .reference 2 4 9]

/-- Of the two names of least extent the first one is innermost, and the first target has its name
and its definition. The longest name has a target too, and the binding has none. -/
theorem overlappingIndex_targets :
    let p : Position := ⟨1, 4⟩
    let z := lineEntry "z" .reference 2 4 9
    let first : Target := ⟨"z", .onLine "T" 9 1 1⟩
    overlappingIndex.innermostAt p = some z ∧
      (overlappingIndex.definitionsAt p).head? = some first ∧
      (∃ e, ((overlappingIndex.nestedAt p).find? fun e => e.leadsTo? = some first.span) = some e ∧
        e.2.name = "z") ∧
      Span.onLine "T" 7 1 1 ∈ (overlappingIndex.definitionsAt p).map Target.span ∧
      Span.onLine "T" 8 1 1 ∉ (overlappingIndex.definitionsAt p).map Target.span := by
  intro p z first
  obtain ⟨hperm, -, -, horder, hnamed, -, -, hfirst⟩ := definitionsAt_exact overlappingIndex p
  have hz : overlappingIndex.innermostAt p = some z := by decide +kernel
  have hhead : (overlappingIndex.definitionsAt p).head? = some first :=
    hfirst z first.span hz rfl rfl
  have hspans : ∀ d, d ∈ (overlappingIndex.definitionsAt p).map Target.span ↔
      d ∈ (overlappingIndex.entriesAt p).filterMap Entry.leadsTo? := fun d => by
    rw [horder.mem_iff]
    exact (hperm.filterMap Entry.leadsTo?).mem_iff
  refine ⟨hz, hhead, hnamed first (List.mem_of_head? hhead), ?_, ?_⟩
  · rw [hspans]
    decide +kernel
  · rw [hspans]
    decide +kernel

end Index

end Xref
