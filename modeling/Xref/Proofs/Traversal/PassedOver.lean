import Xref.Proofs.Settings.Changes
import Xref.Proofs.Traversal.Confinement
import Xref.Proofs.Traversal.Walk

/-!
# Nodes that are passed over

A node comes right before the sites of what it holds (`Module.sites_nested`). If its shape is not
supported, none of these sites is reached, so they leave nothing, and a walk that gets to the node
leaves one gap for the node and all that it holds (`walk_passing_over`). It depends on the mode
alone whether the gap is reported or ends the walk.

Shapes that are not implemented are never supported, whatever is enabled and disabled, so nodes of
these shapes are passed over in every tree and under all settings.
-/

namespace Xref

open Trace

variable {I : Type}

/-! ## A node and what it holds -/

/-- Each node among the sites comes right before the sites of what it holds. -/
def Nested (sites : List (Site I)) : Prop :=
  ∀ before path n rest, sites = before ++ .node path n :: rest →
    ∃ (inner : Parts I n.form.slots) (after : List (Site I)), rest = inner.sites path n ++ after

namespace Nested

theorem nil : Nested ([] : List (Site I)) := by
  intro before path n rest h
  exact absurd h.symm (List.append_ne_nil_of_right_ne_nil _ (List.cons_ne_nil _ _))

theorem append {a b : List (Site I)} (ha : Nested a) (hb : Nested b) : Nested (a ++ b) := by
  intro before path n rest h
  rcases append_eq_append_cons h with ⟨more, rfl⟩ | ⟨between, rfl, hrest⟩
  · obtain ⟨inner, after, rfl⟩ := ha before path n more rfl
    refine ⟨inner, after ++ b, ?_⟩
    rw [List.append_assoc, List.cons_append] at h
    rw [← List.append_assoc]
    exact (List.cons.inj (List.append_cancel_left h)).2.symm
  · exact hb between path n rest hrest

/-- There are no nodes among names. -/
theorem names (outer : List Node) (holder : Node) (idents : List (Located I)) :
    Nested (idents.map fun ident => .name ⟨outer, holder, ident⟩) := by
  intro before path n rest h
  have hmem : Site.node path n ∈ idents.map fun ident => Site.name ⟨outer, holder, ident⟩ := by
    rw [h]
    exact List.mem_append_right before List.mem_cons_self
  obtain ⟨ident, -, hname⟩ := List.mem_map.mp hmem
  cases hname

/-- A node in front of what it holds. -/
theorem enter {path : List Node} {n : Node} {inner : Parts I n.form.slots}
    (h : Nested (inner.sites path n)) : Nested (.node path n :: inner.sites path n) := by
  intro before path' n' rest hsplit
  cases before with
  | nil =>
    cases hsplit
    exact ⟨inner, [], (List.append_nil _).symm⟩
  | cons site before =>
    obtain ⟨rfl, hrest⟩ := List.cons.inj hsplit
    exact h before path' n' rest hrest

theorem sitesClosed : SitesClosed fun _ sites => Nested (I := I) sites :=
  ⟨fun _ => nil, append, names, enter⟩

end Nested

theorem Module.sites_nested (m : Module I) : Nested m.sites :=
  Nested.sitesClosed.ofModule m

/-! ## Passing over a node -/

/-- Nothing inside a node of an unsupported shape is reached. -/
theorem Parts.not_reached_of_unsupported {support : Support} {outer : List Node} {n : Node}
    {shape : Shape} (inner : Parts I n.form.slots) (hshape : n.shape? = some shape)
    (hsupp : support.supports shape = false) :
    ∀ s ∈ inner.sites outer n, ¬ Reached support s.nodes := by
  intro s hs
  have hmem : n ∈ s.nodes := ((inner.sites_rooted outer n).inside s hs).subset (by simp)
  exact not_reached_of_mem hmem hshape hsupp

/-- A walk that gets to a node of an unsupported shape passes over it and all that it holds. -/
theorem walk_passing_over {reading : Reading I} {config : Config} {outer : List Node} {n : Node}
    {shape : Shape} (inner : Parts I n.form.slots) (hreached : Reached config.support outer)
    (hshape : n.shape? = some shape) (hsupp : config.support.supports shape = false)
    (before after : List (Site I)) :
    walk reading config (before ++ .node outer n :: (inner.sites outer n ++ after)) =
      andThen (walk reading config before)
        (andThen (skip config.mode (.unsupported shape n.loc)) (walk reading config after)) := by
  have hinner : walk reading config (inner.sites outer n) = .ok .empty :=
    walk_of_not_reached (inner.not_reached_of_unsupported hshape hsupp)
  rw [walk_append, walk_cons, walk_append, hinner, empty_andThen,
    Site.visit_node_of_unsupported hreached hshape hsupp]

/-- Indexing the module leaves `gap` in one place, between the sites `before` and `after`. -/
structure Module.PassesOver (m : Module I) (reading : Reading I) (breadcrumbs : Bool)
    (support : Support) (phase : Phase) (before : List (Site I)) (gap : Gap)
    (after : List (Site I)) : Prop where
  /-- Lenient indexing goes on after the gap. It has one report of the gap, after the reports from
  before and before the reports from after it, and no entries but those from before and after. -/
  lenient : ∀ r, m.indexed reading ⟨.lenient, breadcrumbs, support⟩ phase = .ok r ↔
    ∃ s t, walk reading ⟨.lenient, breadcrumbs, support⟩ before = .ok s ∧
      walk reading ⟨.lenient, breadcrumbs, support⟩ after = .ok t ∧
      r = ⟨.ofPairs (s.entries ++ t.entries), s.gaps.map (Gap.diagnostic phase) ++
        gap.diagnostic phase :: t.gaps.map (Gap.diagnostic phase)⟩
  /-- Strict indexing that gets to the gap fails there. -/
  strict : ∀ s, walk reading ⟨.strict, breadcrumbs, support⟩ before = .ok s →
    m.indexed reading ⟨.strict, breadcrumbs, support⟩ phase = .error (.gap gap)
  /-- Strict indexing that does not get to the gap has failed before it. -/
  earlier : ∀ e, walk reading ⟨.strict, breadcrumbs, support⟩ before = .error e →
    m.indexed reading ⟨.strict, breadcrumbs, support⟩ phase = .error e

/-- What is indexed of a trace with a gap in the middle. -/
theorem Trace.indexed_around_gap (phase : Phase) (s t : Trace) (gap : Gap) :
    (s ++ (⟨[], [gap]⟩ ++ t)).indexed phase =
      ⟨.ofPairs (s.entries ++ t.entries), s.gaps.map (Gap.diagnostic phase) ++
        gap.diagnostic phase :: t.gaps.map (Gap.diagnostic phase)⟩ := by
  simp [Trace.indexed]

section

variable {m : Module I} {support : Support} {before after : List (Site I)} {outer : List Node}
  {n : Node} {shape : Shape} {inner : Parts I n.form.slots}
  (hsites : m.sites = before ++ .node outer n :: (inner.sites outer n ++ after))
  (hreached : Reached support outer) (hshape : n.shape? = some shape)
  (hsupp : support.supports shape = false)

include hsites hreached hshape hsupp

/-- A module is indexed as its sites are walked, but for the sites inside a node that is passed
over. -/
theorem Module.indexed_passing_over (reading : Reading I) (mode : Mode) (breadcrumbs : Bool)
    (phase : Phase) :
    m.indexed reading ⟨mode, breadcrumbs, support⟩ phase =
      (andThen (walk reading ⟨mode, breadcrumbs, support⟩ before)
        (andThen (skip mode (.unsupported shape n.loc))
          (walk reading ⟨mode, breadcrumbs, support⟩ after))).map (Trace.indexed phase) := by
  unfold Module.indexed
  rw [m.trace_outline, hsites]
  congr 1
  exact walk_passing_over inner hreached hshape hsupp before after

/-- A reached node of an unsupported shape is passed over. -/
theorem Module.passesOver_of_unsupported (reading : Reading I) (breadcrumbs : Bool)
    (phase : Phase) :
    m.PassesOver reading breadcrumbs support phase before (.unsupported shape n.loc) after := by
  have hindexed := fun mode =>
    indexed_passing_over hsites hreached hshape hsupp reading mode breadcrumbs phase
  refine ⟨fun r => ?_, fun s hs => ?_, fun e he => ?_⟩
  · rw [hindexed, map_eq_ok_iff]
    constructor
    · rintro ⟨u, hu, rfl⟩
      obtain ⟨s, v, hs, hv, rfl⟩ := andThen_eq_ok_iff.mp hu
      obtain ⟨g, t, hg, ht, rfl⟩ := andThen_eq_ok_iff.mp hv
      cases hg
      exact ⟨s, t, hs, ht, indexed_around_gap phase s t _⟩
    · rintro ⟨s, t, hs, ht, rfl⟩
      refine ⟨s ++ (⟨[], [.unsupported shape n.loc]⟩ ++ t), ?_,
        (indexed_around_gap phase s t _).symm⟩
      rw [hs, ht]
      rfl
  · rw [hindexed, hs]
    rfl
  · rw [hindexed, he]
    rfl

end

/-! ## Shapes that are not implemented -/

/-- The last change of each shape decides what is supported. A shape is supported after changes if
it is implemented and was enabled last, or never changed after a start that is not empty; the size
is the number of such shapes; and changes of which the last ones agree for all implemented shapes
make equal supports. So nothing inside a node of a shape that is not implemented is ever reached. If
the node itself is, it is passed over: lenient indexing reports it once and goes on, and strict
indexing fails. -/
theorem Support.run_decided_by_last_changes :
    (∀ (start : Start) (changes : List Change) (shape : Shape),
      (run start changes).supports shape = true ↔
        shape.isImplemented = true ∧ (Change.last? changes shape = some (.enable shape) ∨
          (Change.last? changes shape = none ∧ start ≠ .empty))) ∧
    (∀ (start : Start) (changes : List Change),
      (run start changes).size = {shape | (run start changes).supports shape = true}.ncard) ∧
    (∀ (start : Start) (changes others : List Change),
      (∀ shape, shape.isImplemented = true →
        Change.last? changes shape = Change.last? others shape) →
      run start changes = run start others) ∧
    (∀ (start : Start) (changes : List Change) (m : Module I) (reading : Reading I)
      (breadcrumbs : Bool) (phase : Phase) (before rest : List (Site I)) (outer : List Node)
      (n : Node) (shape : Shape), m.sites = before ++ .node outer n :: rest →
      n.shape? = some shape → shape.isImplemented = false →
      ∃ (inner : Parts I n.form.slots) (after : List (Site I)),
        rest = inner.sites outer n ++ after ∧
        (∀ s ∈ inner.sites outer n, ¬ Reached (run start changes) s.nodes) ∧
        (Reached (run start changes) outer →
          m.PassesOver reading breadcrumbs (run start changes) phase before
            (.unsupported shape n.loc) after)) := by
  refine ⟨fun _ _ _ => supports_run_iff, fun _ _ => size_eq_ncard _,
    fun _ _ _ => run_eq_of_last?, ?_⟩
  intro start changes m reading breadcrumbs phase before rest outer n shape hsites hshape himpl
  have hsupp : (run start changes).supports shape = false := supports_eq_false himpl
  obtain ⟨inner, after, rfl⟩ := m.sites_nested before outer n rest hsites
  exact ⟨inner, after, rfl, inner.not_reached_of_unsupported hshape hsupp,
    fun hreached => Module.passesOver_of_unsupported hsites hreached hshape hsupp reading
      breadcrumbs phase⟩

/-- In `static x + y` the left operand is of a shape that is not implemented. It is enabled in vain,
and the other changes are those of a shorter list. Strict indexing fails at the operand. Lenient
indexing reports it, and then `y`, which has no place; the operator is indexed, and `x` is not. -/
theorem Support.run_enabled_in_vain :
    let s := Span.onLine "T.hs" 1 1 1
    let x : Located (Tree Name .expr) :=
      ⟨.known s, .varExpr, .name ⟨.known s, .builtIn "x" "var"⟩ .nil⟩
    let m := operatorContext.plug
      ⟨x.loc, .static, .located x.loc x.node.form x.node.parts .nil⟩
    let changes : List Change :=
      [.disable .app, .enable .static, .disable .lambda, .enable .app]
    let support := run .default changes
    support = run .default [.enable .app, .disable .lambda] ∧ support.size = 76 ∧
      support.supports .app = true ∧ support.supports .static = false ∧
      (∃ after, m.PassesOver .resolved false support .renamed (m.sites.take 2)
        (.unsupported .static (.known s)) after) ∧
      m.indexed .resolved ⟨.strict, false, support⟩ .renamed =
        .error (.gap (.unsupported .static (.known s))) ∧
      ∃ r, m.indexed .resolved ⟨.lenient, false, support⟩ .renamed = .ok r ∧
        r.index.entries.map Prod.fst = [.onLine "T.hs" 1 3 3] ∧
        r.diagnostics = [Gap.diagnostic .renamed (.unsupported .static (.known s)),
          Gap.diagnostic .renamed (.imprecise "y" "generated")] := by
  intro s x m changes support
  obtain ⟨hsupports, -, hequal, hnode⟩ := @Support.run_decided_by_last_changes Name
  have hlast : ∀ shape ∈ Shape.all, shape.isImplemented = true →
      Change.last? changes shape = Change.last? [.enable .app, .disable .lambda] shape := by
    decide +kernel
  obtain ⟨inner, after, -, -, hpassed⟩ := hnode .default changes m .resolved false .renamed
    (m.sites.take 2) (m.sites.drop 3) _ ⟨.static, .known s⟩ .static rfl rfl rfl
  have hgap := hpassed (by decide +kernel)
  refine ⟨hequal .default _ _ fun shape => hlast shape shape.mem_all, by decide +kernel,
    (hsupports .default _ .app).mpr (by decide +kernel), ?_, ⟨after, hgap⟩, hgap.strict _ rfl, ?_⟩
  · exact Bool.eq_false_iff.mpr (mt (hsupports .default _ .static).mp (by decide +kernel))
  · exact ⟨_, rfl, by decide +kernel, rfl⟩

end Xref
