import Xref.Indexing.Module
import Xref.Proofs.Traversal.Sequence
import Xref.Proofs.Traversal.Sites

/-!
# Strict and lenient walks

The two modes walk one outline in the same order and differ only at gaps. `Simulates` relates what
they make of it: nothing was left out and both found the same; or lenient mode passed over gaps, and
strict mode stopped at the first of them; or an unknown tag ended the lenient walk, and the strict
walk ended there or at an earlier gap. A name, a node and a sequence of walks keep the relation, so
by induction on the outline every walk does (`Outline.trace_simulates`).

Gaps can be told from their reports (`Gap.diagnostic_injective`), so the first report of a lenient
walk determines the error of the strict one.
-/

namespace Xref

/-! ## Reports determine gaps -/

/-- The name of a shape is looked up as that shape. -/
theorem Shape.ofName?_name (s : Shape) : ofName? s.name = some s := by
  have hall : ∀ t ∈ all, ofName? t.name = some t := by decide +kernel
  exact hall s (mem_all s)

/-- Shapes are reported under different names. -/
theorem Shape.name_injective {s t : Shape} (h : s.name = t.name) : s = t := by
  have hs := ofName?_name s
  rw [h, ofName?_name t] at hs
  exact (Option.some.inj hs).symm

/-- A gap is determined by its report. The code tells the two kinds apart; within a kind the message
gives the shape or the name, and the location gives the rest. -/
theorem Gap.diagnostic_injective {phase : Phase} {g h : Gap}
    (e : g.diagnostic phase = h.diagnostic phase) : g = h := by
  have hcode := congrArg Diagnostic.code e
  have hloc := congrArg Diagnostic.location e
  have hmsg := congrArg Diagnostic.message e
  cases g with
  | unsupported shape loc =>
    cases h with
    | unsupported shape' loc' =>
      simp only [diagnostic] at hloc hmsg
      rw [hloc, Shape.name_injective ((String.append_right_inj _).mp hmsg)]
    | imprecise name' description' => simp [diagnostic] at hcode
  | imprecise name description =>
    cases h with
    | unsupported shape' loc' => simp [diagnostic] at hcode
    | imprecise name' description' =>
      simp only [diagnostic, Location.placeholder.injEq] at hloc hmsg
      have hname := (String.append_right_inj _).mp ((String.append_left_inj _).mp hmsg)
      rw [hloc, hname]

/-! ## The relation -/

/-- What strict mode may make of an outline for which lenient mode has the given result. -/
inductive Simulates : Except TraversalError Trace → Except TraversalError Trace → Prop where
  /-- Nothing was left out, and strict mode found the same. -/
  | clean (t : Trace) (h : t.gaps = []) : Simulates (.ok t) (.ok t)
  /-- Strict mode stopped at the first gap. -/
  | stopped (t : Trace) (gap : Gap) (more : List Gap) (h : t.gaps = gap :: more) :
      Simulates (.ok t) (.error (.gap gap))
  /-- An unknown tag ended the lenient walk, and strict mode came no further. -/
  | failed (tag name : String) (e : TraversalError) :
      Simulates (.error (.unknownTag tag name)) (.error e)

namespace Simulates

open Trace

/-- Walks in sequence keep the relation. An error of the strict first walk hides what becomes of
the second, and the first gap of the sequence is then the first gap of the first walk. -/
theorem andThen {a a' b b' : Except TraversalError Trace} (ha : Simulates a a')
    (hb : Simulates b b') : Simulates (andThen a b) (andThen a' b') := by
  cases ha with
  | clean s hs =>
    cases hb with
    | clean t ht => exact .clean _ (by rw [gaps_append, hs, ht]; rfl)
    | stopped t gap more ht => exact .stopped _ gap more (by rw [gaps_append, hs, ht]; rfl)
    | failed tag name e => exact .failed tag name e
  | stopped s gap more hs =>
    cases hb with
    | clean t ht => exact .stopped _ gap (more ++ t.gaps) (by rw [gaps_append, hs]; rfl)
    | stopped t _ _ ht => exact .stopped _ gap (more ++ t.gaps) (by rw [gaps_append, hs]; rfl)
    | failed tag name e => exact .failed tag name (.gap gap)
  | failed tag name e => exact .failed tag name e

/-- Breadcrumbs keep the relation, since they are left on entries only. -/
theorem map_mark {a a' : Except TraversalError Trace} (h : Simulates a a') {c c' : Config}
    (hc : c.breadcrumbs = c'.breadcrumbs) (shape : Shape) :
    Simulates (a.map (mark c shape)) (a'.map (mark c' shape)) := by
  rw [← mark_congr hc]
  cases h with
  | clean t ht => exact .clean _ (by rw [gaps_mark, ht])
  | stopped t gap more ht => exact .stopped _ gap more (by rw [gaps_mark, ht])
  | failed tag name e => exact .failed tag name e

/-- A gap is passed over in lenient mode and ends the walk in strict mode. -/
theorem skip (gap : Gap) : Simulates (skip .lenient gap) (skip .strict gap) :=
  .stopped _ gap [] rfl

end Simulates

/-- One name: an unknown tag is an error in both modes, before the location counts. -/
theorem Reading.trace_simulates {I : Type} (reading : Reading I) (use : Use) (ident : Located I) :
    Simulates (reading.trace .lenient use ident) (reading.trace .strict use ident) := by
  unfold Reading.trace Reading.record
  cases reading.record? use ident.node with
  | none => exact .failed _ _ _
  | some record =>
    obtain ⟨loc, node⟩ := ident
    cases loc with
    | known span => exact .clean _ rfl
    | placeholder description => exact Simulates.skip (.imprecise record.name description)

/-- The strict walk through an outline and the lenient one are related. -/
theorem Outline.trace_simulates {I : Type} (o : Outline I) (reading : Reading I)
    (breadcrumbs : Bool) (support : Support) :
    Simulates (o.trace reading ⟨.lenient, breadcrumbs, support⟩)
      (o.trace reading ⟨.strict, breadcrumbs, support⟩) := by
  induction o with
  | nil => exact .clean _ rfl
  | name use ident rest ih =>
    rw [trace_name, trace_name]
    exact (reading.trace_simulates use ident).andThen ih
  | node shape loc inner rest ihInner ih =>
    rw [trace_node, trace_node]
    refine Simulates.andThen ?_ ih
    by_cases h : support.supports shape = true
    · rw [if_pos h, if_pos h]
      exact ihInner.map_mark rfl shape
    · rw [if_neg h, if_neg h]
      exact Simulates.skip (.unsupported shape loc)

/-! ## Modules -/

/-- Strict and lenient indexing of one module simulate each other: (a) what strict mode accepts,
lenient mode indexes in the same way and without reports; (b) and conversely; (c) when lenient mode
reports something, strict mode fails with the gap of the first report; (d) lenient mode fails only
for an unknown tag, and then strict mode fails too. -/
theorem Module.indexed_strict_iff_lenient {I : Type} (m : Module I) (reading : Reading I)
    (breadcrumbs : Bool) (support : Support) (phase : Phase) :
    (∀ i ds, m.indexed reading ⟨.strict, breadcrumbs, support⟩ phase = .ok ⟨i, ds⟩ →
      ds = [] ∧ m.indexed reading ⟨.lenient, breadcrumbs, support⟩ phase = .ok ⟨i, []⟩) ∧
    (∀ i, m.indexed reading ⟨.lenient, breadcrumbs, support⟩ phase = .ok ⟨i, []⟩ →
      m.indexed reading ⟨.strict, breadcrumbs, support⟩ phase = .ok ⟨i, []⟩) ∧
    (∀ i d ds, m.indexed reading ⟨.lenient, breadcrumbs, support⟩ phase = .ok ⟨i, d :: ds⟩ →
      (∃ gap : Gap, d = gap.diagnostic phase) ∧
      ∀ gap : Gap, d = gap.diagnostic phase →
        m.indexed reading ⟨.strict, breadcrumbs, support⟩ phase = .error (.gap gap)) ∧
    (∀ e, m.indexed reading ⟨.lenient, breadcrumbs, support⟩ phase = .error e →
      (∃ tag name, e = .unknownTag tag name) ∧
      ∃ e', m.indexed reading ⟨.strict, breadcrumbs, support⟩ phase = .error e') := by
  have hsim := m.outline.trace_simulates reading breadcrumbs support
  unfold Module.indexed
  generalize m.outline.trace reading ⟨.lenient, breadcrumbs, support⟩ = lenient at hsim ⊢
  generalize m.outline.trace reading ⟨.strict, breadcrumbs, support⟩ = strict at hsim ⊢
  cases hsim with
  | clean t ht =>
    have hok : (Except.ok t : Except TraversalError Trace).map (Trace.indexed phase) =
        .ok ⟨.ofPairs t.entries, []⟩ := by
      simp [Except.map, Trace.indexed, ht]
    rw [hok]
    refine ⟨?_, fun i h => h, ?_, ?_⟩
    · intro i ds h
      cases h
      exact ⟨rfl, rfl⟩
    · intro i d ds h
      cases h
    · intro e h
      cases h
  | stopped t gap more ht =>
    have hok : (Except.ok t : Except TraversalError Trace).map (Trace.indexed phase) =
        .ok ⟨.ofPairs t.entries, gap.diagnostic phase :: more.map (Gap.diagnostic phase)⟩ := by
      simp [Except.map, Trace.indexed, ht]
    rw [hok]
    refine ⟨?_, ?_, ?_, ?_⟩
    · intro i ds h
      cases h
    · intro i h
      cases h
    · intro i d ds h
      cases h
      refine ⟨⟨gap, rfl⟩, fun other hother => ?_⟩
      rw [Gap.diagnostic_injective hother]
      rfl
    · intro e h
      cases h
  | failed tag name e =>
    refine ⟨?_, ?_, ?_, ?_⟩
    · intro i ds h
      cases h
    · intro i h
      cases h
    · intro i d ds h
      cases h
    · intro e' h
      cases h
      exact ⟨⟨tag, name, rfl⟩, e, rfl⟩

/-- Of the signature `f, g :: T`, lenient mode reports first that `g` has no place and then that `T`
is passed over. Strict mode stops at `g`. -/
theorem signatureModule_stops :
    let m := signatureModule (.placeholder "generated") "var"
    (∃ i d, m.indexed .resolved ⟨.lenient, true, .disable .full .nameType⟩ .typechecked =
      .ok ⟨i, [Gap.diagnostic .typechecked (.imprecise "g" "generated"), d]⟩) ∧
    m.indexed .resolved ⟨.strict, true, .disable .full .nameType⟩ .typechecked =
      .error (.gap (.imprecise "g" "generated")) :=
  ⟨⟨_, _, rfl⟩,
    ((Module.indexed_strict_iff_lenient _ _ _ _ _).2.2.1 _ _ _ rfl).2 _ rfl⟩

end Xref
