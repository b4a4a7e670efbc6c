import Xref.Indexing.Module
import Xref.Proofs.Index.Lookup
import Xref.Proofs.Traversal.Sequence
import Xref.Proofs.Traversal.Sites

/-!
# Supporting more shapes

With more shapes supported a walk enters more nodes. Records are not monotone in the support: a name
that comes into reach may be written over an earlier one at its span, and its tag may be unknown. So
the two walks are compared by the entries that they leave on their traces. A lenient walk that gets
to its end does so with fewer shapes as well, and leaves some of the entries, in the same order
(`Outline.exists_trace_of_within`). A strict walk that gets to its end has entered every node, so
more shapes change nothing (`Outline.trace_strict_of_within`).
-/

namespace Xref

/-- Every shape of the one support is in the other. -/
def Support.Within (s t : Support) : Prop :=
  ∀ shape, s.supports shape = true → t.supports shape = true

/-- A support without one of its shapes is within it. -/
theorem Support.disable_within (s : Support) (shape : Shape) : (s.disable shape).Within s := by
  intro other h
  have hsupp : (if other = shape then false else s.supports other) = true := h
  split at hsupp
  · cases hsupp
  · exact hsupp

namespace Trace

/-- Marks are left on each entry by itself, so what was a part of the entries stays one. -/
theorem entries_mark_sublist {s t : Trace} (h : s.entries.Sublist t.entries) (config : Config)
    (shape : Shape) : (mark config shape s).entries.Sublist (mark config shape t).entries := by
  unfold mark
  split
  · exact h.map _
  · exact h

end Trace

/-! ## Walks -/

namespace Outline

open Trace

variable {I : Type} {reading : Reading I} {breadcrumbs : Bool} {s t : Support}

/-- With fewer shapes supported, a lenient walk still gets to its end, and leaves some of the
entries. -/
theorem exists_trace_of_within (h : s.Within t) (o : Outline I) {u : Trace}
    (hu : o.trace reading ⟨.lenient, breadcrumbs, t⟩ = .ok u) :
    ∃ v, o.trace reading ⟨.lenient, breadcrumbs, s⟩ = .ok v ∧ v.entries.Sublist u.entries := by
  induction o generalizing u with
  | nil =>
    cases hu
    exact ⟨.empty, rfl, List.Sublist.refl _⟩
  | name use ident rest ih =>
    rw [trace_name, andThen_eq_ok_iff] at hu
    obtain ⟨first, others, hfirst, hothers, rfl⟩ := hu
    obtain ⟨v, hv, hsub⟩ := ih hothers
    have hname : reading.trace .lenient use ident = .ok first := hfirst
    refine ⟨first ++ v, ?_, (List.Sublist.refl _).append hsub⟩
    rw [trace_name, hname, hv, andThen_ok_ok]
  | node shape loc inner rest ihInner ih =>
    rw [trace_node, andThen_eq_ok_iff] at hu
    obtain ⟨first, others, hfirst, hothers, rfl⟩ := hu
    obtain ⟨v, hv, hsub⟩ := ih hothers
    by_cases hs : s.supports shape = true
    · -- Both walks enter the node.
      rw [if_pos (h shape hs), map_eq_ok_iff] at hfirst
      obtain ⟨u, hinner, rfl⟩ := hfirst
      obtain ⟨w, hw, hsubInner⟩ := ihInner hinner
      have hmark : mark ⟨.lenient, breadcrumbs, s⟩ shape = mark ⟨.lenient, breadcrumbs, t⟩ shape :=
        mark_congr rfl shape
      refine ⟨mark ⟨.lenient, breadcrumbs, t⟩ shape w ++ v, ?_, ?_⟩
      · rw [trace_node, if_pos hs, hw, hv, hmark]
        rfl
      · exact (entries_mark_sublist hsubInner _ shape).append hsub
    · -- The node is passed over, and what the other walk found in it is left out.
      refine ⟨⟨[], [.unsupported shape loc]⟩ ++ v, ?_, ?_⟩
      · rw [trace_node, if_neg hs, hv]
        rfl
      · exact (List.nil_sublist _).append hsub

/-- A strict walk that gets to its end leaves the same trace with more shapes supported. -/
theorem trace_strict_of_within (h : s.Within t) (o : Outline I) {u : Trace}
    (hu : o.trace reading ⟨.strict, breadcrumbs, s⟩ = .ok u) :
    o.trace reading ⟨.strict, breadcrumbs, t⟩ = .ok u := by
  induction o generalizing u with
  | nil => exact hu
  | name use ident rest ih =>
    rw [trace_name, andThen_eq_ok_iff] at hu
    obtain ⟨first, others, hfirst, hothers, rfl⟩ := hu
    have hname : reading.trace .strict use ident = .ok first := hfirst
    rw [trace_name, hname, ih hothers, andThen_ok_ok]
  | node shape loc inner rest ihInner ih =>
    rw [trace_node, andThen_eq_ok_iff] at hu
    obtain ⟨first, others, hfirst, hothers, rfl⟩ := hu
    by_cases hs : s.supports shape = true
    · rw [if_pos hs, map_eq_ok_iff] at hfirst
      obtain ⟨u, hinner, rfl⟩ := hfirst
      have hmark : mark ⟨.strict, breadcrumbs, s⟩ shape = mark ⟨.strict, breadcrumbs, t⟩ shape :=
        mark_congr rfl shape
      rw [trace_node, if_pos (h shape hs), ihInner hinner, ih hothers, hmark]
      rfl
    · -- A strict walk does not get past the node.
      rw [if_neg hs] at hfirst
      cases hfirst

end Outline

/-! ## Modules -/

/-- Results are monotone in the support `t` of which `s` is a part. If lenient indexing succeeds
with `t`, it succeeds with `s`; the entries that its walk leaves are some of those with `t`, in the
same order, and so are the spans of the index. If strict indexing succeeds with `s`, it has the same
result with `t`. -/
theorem Module.indexed_mono_support {I : Type} (m : Module I) (reading : Reading I)
    (breadcrumbs : Bool) (phase : Phase) (s t : Support) (h : s.Within t) :
    (∀ r, m.indexed reading ⟨.lenient, breadcrumbs, t⟩ phase = .ok r →
      ∃ u v, m.outline.trace reading ⟨.lenient, breadcrumbs, t⟩ = .ok u ∧
        m.outline.trace reading ⟨.lenient, breadcrumbs, s⟩ = .ok v ∧
        r = u.indexed phase ∧
        m.indexed reading ⟨.lenient, breadcrumbs, s⟩ phase = .ok (v.indexed phase) ∧
        v.entries.Sublist u.entries ∧
        ∀ span, (v.indexed phase).index.contains span = true →
          (u.indexed phase).index.contains span = true) ∧
    (∀ r, m.indexed reading ⟨.strict, breadcrumbs, s⟩ phase = .ok r →
      m.indexed reading ⟨.strict, breadcrumbs, t⟩ phase = .ok r) := by
  unfold Module.indexed
  constructor
  · intro r hr
    obtain ⟨u, hu, rfl⟩ := Trace.map_eq_ok_iff.mp hr
    obtain ⟨v, hv, hsub⟩ := m.outline.exists_trace_of_within h hu
    refine ⟨u, v, hu, hv, rfl, Trace.map_eq_ok_iff.mpr ⟨v, hv, rfl⟩, hsub, fun span hspan => ?_⟩
    obtain ⟨e, he, rfl⟩ := Index.contains_ofPairs.mp hspan
    exact Index.contains_ofPairs.mpr ⟨e, hsub.subset he, rfl⟩
  · intro r hr
    obtain ⟨u, hu, rfl⟩ := Trace.map_eq_ok_iff.mp hr
    exact Trace.map_eq_ok_iff.mpr ⟨u, m.outline.trace_strict_of_within h hu, rfl⟩

/-- In the signature `f, g :: T` let `g` stand at the span of `T`. Where the types of names are
supported, `T` is the last there, and where they are not, the record of `g` comes to light. Lambdas
make no difference, for there are none. -/
theorem signatureModule_widened :
    let m := signatureModule (.known (.onLine "T.hs" 1 9 9)) "var"
    let nameAt := fun (i : Index) => (i.get? (.onLine "T.hs" 1 9 9)).map Record.name
    (∃ u v : Trace,
      m.indexed .resolved ⟨.lenient, false, .full⟩ .renamed = .ok (u.indexed .renamed) ∧
      m.indexed .resolved ⟨.lenient, false, .disable .full .nameType⟩ .renamed =
        .ok (v.indexed .renamed) ∧
      v.entries.Sublist u.entries ∧ u.entries.length = 3 ∧ v.entries.length = 2 ∧
      nameAt (u.indexed .renamed).index = some "T" ∧
      nameAt (v.indexed .renamed).index = some "g") ∧
    ∃ r, m.indexed .resolved ⟨.strict, true, .disable .full .lambda⟩ .renamed = .ok r ∧
      m.indexed .resolved ⟨.strict, true, .full⟩ .renamed = .ok r := by
  intro m nameAt
  obtain ⟨hlenient, -⟩ := Module.indexed_mono_support m .resolved false .renamed _ .full
    (Support.disable_within .full .nameType)
  obtain ⟨-, hstrict⟩ := Module.indexed_mono_support m .resolved true .renamed _ .full
    (Support.disable_within .full .lambda)
  obtain ⟨u, v, hu, hv, -, hfew, hsub, -⟩ := hlenient _ rfl
  cases hu
  cases hv
  exact ⟨⟨_, _, rfl, hfew, hsub, rfl, rfl, by decide +kernel, by decide +kernel⟩, _, rfl,
    hstrict _ rfl⟩

end Xref
