import Xref.Indexing.Module
import Xref.Proofs.Traversal.Sequence

/-!
# A walk that collects as it goes

Traces are put together from the traces of parts. The same can be done in one pass, over the one
list of entries and the one list of gaps that were found so far: a name adds to one of them, and a
node remembers how many entries there were when it was entered and leaves its breadcrumb on all that
came after them when it is left. This pass goes over the trees themselves. It asks for the support
of a shape where it needs to: some nodes that are never looked into are passed over at once, others
when they have been entered.

What a part of the pass finds does not depend on what was found before it, and leaves that as it was
(`Collector.Extends`). Each step of the pass keeps this, so by induction on the parts of a tree the
pass extends what was found by the trace of the outline (`Parts.collect_extends`). Nodes that are
never looked into have shapes that are not implemented (`Form.isImplemented_eq_false_iff`), and no
support has such a shape, so it makes no difference whether it is asked for. Modules are indexed as
the pass collects them (`Module.indexed_eq_collect`).
-/

namespace Xref

open Trace

variable {I : Type}

/-! ## The pass -/

/-- A part of the pass, from what was found before it to what is found after it. -/
abbrev Collector :=
  Trace → Except TraversalError Trace

namespace Collector

/-- Passes over a gap, where the mode allows it. -/
def skip (mode : Mode) (gap : Gap) : Collector := fun found =>
  match mode with
  | .strict => .error (.gap gap)
  | .lenient => .ok { found with gaps := found.gaps ++ [gap] }

/-- One name. The tag is looked at before the location. -/
def name (reading : Reading I) (mode : Mode) (use : Use) (ident : Located I) : Collector :=
  fun found => do
    let record ← reading.record use ident.node
    match ident.loc with
    | .known span => .ok { found with entries := found.entries ++ [(span, record)] }
    | .placeholder description => skip mode (.imprecise record.name description) found

/-- Names that are all used in one way, in order. -/
def names (reading : Reading I) (mode : Mode) (use : Use) (idents : List (Located I)) : Collector :=
  fun found => idents.foldlM (fun found ident => name reading mode use ident found) found

/-- Leaves a breadcrumb on all entries but the first `count`. -/
def markFrom (shape : Shape) (count : Nat) (found : Trace) : Trace :=
  { found with
    entries := found.entries.take count ++
      (found.entries.drop count).map fun e => (e.1, e.2.mark shape) }

/-- What is inside a node, if the shape of the node is supported. -/
def enter (config : Config) (shape : Shape) (loc : Location) (inside : Collector) : Collector :=
  fun found =>
    if config.support.supports shape then do
      let after ← inside found
      return if config.breadcrumbs then markFrom shape found.entries.length after else after
    else skip config.mode (.unsupported shape loc) found

end Collector

/-- Nodes of the form are passed over without a question about their shape: declarations that are
not looked into, and implicit parameters. -/
def Form.isRefused : {c : Category} → Form c → Bool
  | _, standaloneDeriving | _, foreignDecl | _, ruleDecl | _, spliceDecl | _, implicitParams => true
  | _, _ => false

/-- Nodes that are refused are never looked into. -/
theorem Form.access_of_isRefused {c : Category} {form : Form c} (h : form.isRefused = true) :
    form.access = .closed := by
  cases form with
  | standaloneDeriving | foreignDecl | ruleDecl | spliceDecl | implicitParams => rfl
  | _ => cases h

/-- A node of the given form. -/
def Collector.node (config : Config) {c : Category} (form : Form c) (loc : Location)
    (inside : Collector) : Collector :=
  match form.shape? with
  | none => inside
  | some shape =>
    if form.isRefused then skip config.mode (.unsupported shape loc)
    else if form.access = .closed then
      enter config shape loc (skip config.mode (.unsupported shape loc))
    else enter config shape loc inside

/-- The parts of a node, where `loc` is the location of that node. -/
def Parts.collect (reading : Reading I) (config : Config) :
    {ss : List Slot} → Parts I ss → Location → Collector
  | _, nil, _ => .ok
  | .name use :: _, name ident rest, loc =>
    Collector.name reading config.mode use ident >=> rest.collect reading config loc
  | .names use :: _, names idents rest, loc =>
    Collector.names reading config.mode use idents >=> rest.collect reading config loc
  | _, generated _ rest, loc => rest.collect reading config loc
  | _, node form inner rest, loc =>
    Collector.node config form loc (inner.collect reading config loc) >=>
      rest.collect reading config loc
  | _, located own form inner rest, loc =>
    Collector.node config form own (inner.collect reading config own) >=>
      rest.collect reading config loc
  | _, absent rest, loc => rest.collect reading config loc
  | _, present item rest, loc =>
    item.collect reading config loc >=> rest.collect reading config loc
  | _, stop rest, loc => rest.collect reading config loc
  | _, more item rest, loc => item.collect reading config loc >=> rest.collect reading config loc

/-- A tree at the given location. -/
def Tree.collect (reading : Reading I) (config : Config) {c : Category} (t : Tree I c)
    (loc : Location) : Collector :=
  .node config t.form loc (t.parts.collect reading config loc)

/-- Declarations, one after the other. -/
def Collector.decls (reading : Reading I) (config : Config)
    (decls : List (Located (Tree I .decl))) : Collector :=
  fun found =>
    decls.foldlM (fun found decl => decl.node.collect reading config decl.loc found) found

/-- All that is found in a module. -/
def Module.collect (reading : Reading I) (config : Config) (m : Module I) :
    Except TraversalError Trace :=
  Collector.decls reading config m.decls .empty

/-! ## Every part extends what was found -/

/-- Whatever was found before, `a` is found after it, or is the error. -/
def Collector.Extends (v : Collector) (a : Except TraversalError Trace) : Prop :=
  ∀ found, v found = a.map (found ++ ·)

/-- The breadcrumb is left on what was found inside, and not on what was found before. -/
theorem Collector.markFrom_append (shape : Shape) (found t : Trace) :
    markFrom shape found.entries.length (found ++ t) =
      found ++ { t with entries := t.entries.map fun e => (e.1, e.2.mark shape) } :=
  Trace.ext (by simp [markFrom]) rfl

namespace Collector.Extends

theorem nil : Extends .ok (.ok .empty) := by
  intro found
  exact congrArg Except.ok (append_empty found).symm

/-- One part after the other. -/
theorem seq {v w : Collector} {a b : Except TraversalError Trace} (hv : v.Extends a)
    (hw : w.Extends b) : Extends (v >=> w) (andThen a b) := by
  intro found
  show v found >>= w = _
  rw [hv found]
  cases a with
  | error e => rfl
  | ok s =>
    show w (found ++ s) = _
    rw [hw (found ++ s)]
    cases b with
    | error e => rfl
    | ok t => exact congrArg Except.ok (append_assoc found s t)

theorem skip (mode : Mode) (gap : Gap) : Extends (.skip mode gap) (Trace.skip mode gap) := by
  intro found
  cases mode with
  | strict => rfl
  | lenient => exact congrArg Except.ok (Trace.ext (List.append_nil _).symm rfl)

variable {reading : Reading I} {config : Config}

theorem name (use : Use) (ident : Located I) :
    Extends (.name reading config.mode use ident) (reading.trace config.mode use ident) := by
  intro found
  unfold Collector.name Reading.trace
  cases reading.record use ident.node with
  | error e => rfl
  | ok record =>
    cases ident.loc with
    | known span => exact congrArg Except.ok (Trace.ext rfl (List.append_nil _).symm)
    | placeholder description => exact skip config.mode (.imprecise record.name description) found

theorem names (use : Use) (idents : List (Located I)) :
    Extends (.names reading config.mode use idents)
      ((Outline.ofNames use idents).trace reading config) := by
  induction idents with
  | nil => exact nil
  | cons ident idents ih => exact (name use ident).seq ih

/-- A node whose shape is not supported is passed over, whatever is inside. -/
theorem enter_of_unsupported {shape : Shape} (h : config.support.supports shape = false)
    (loc : Location) (inside : Collector) :
    Extends (.enter config shape loc inside)
      (Trace.skip config.mode (.unsupported shape loc)) := by
  intro found
  unfold Collector.enter
  rw [if_neg (Bool.eq_false_iff.mp h)]
  exact skip config.mode (.unsupported shape loc) found

/-- A node with a shape. -/
theorem enter {inside : Collector} {a : Except TraversalError Trace} (h : inside.Extends a)
    (shape : Shape) (loc : Location) :
    Extends (.enter config shape loc inside)
      (if config.support.supports shape then a.map (mark config shape)
        else Trace.skip config.mode (.unsupported shape loc)) := by
  by_cases hsupp : config.support.supports shape = true
  · rw [if_pos hsupp]
    intro found
    unfold Collector.enter
    rw [if_pos hsupp, h found]
    cases a with
    | error e => rfl
    | ok t =>
      refine congrArg Except.ok ?_
      unfold mark
      by_cases hon : config.breadcrumbs = true
      · rw [if_pos hon, if_pos hon]
        exact markFrom_append shape found t
      · rw [if_neg hon, if_neg hon]
  · rw [if_neg hsupp]
    exact enter_of_unsupported (Bool.eq_false_iff.mpr hsupp) loc inside

/-- A node of any form. -/
theorem node {inside : Collector} {o : Outline I} (h : inside.Extends (o.trace reading config))
    {c : Category} (form : Form c) (loc : Location) :
    Extends (.node config form loc inside)
      ((Outline.enclose form.shape? loc o).trace reading config) := by
  unfold Collector.node
  cases hshape : form.shape? with
  | none => exact h
  | some shape =>
    rw [Outline.trace_enclose]
    dsimp only
    by_cases hclosed : form.access = .closed
    · -- The shape is not implemented, so the node is passed over before it is entered or after.
      have hsupp : config.support.supports shape = false :=
        Support.supports_eq_false ((Form.isImplemented_eq_false_iff hshape).mpr hclosed)
      rw [hsupp, if_neg Bool.false_ne_true]
      by_cases hrefused : form.isRefused = true
      · rw [if_pos hrefused]
        exact skip config.mode (.unsupported shape loc)
      · rw [if_neg hrefused, if_pos hclosed]
        exact enter_of_unsupported hsupp loc _
    · have hrefused : form.isRefused ≠ true := mt Form.access_of_isRefused hclosed
      rw [if_neg hrefused, if_neg hclosed]
      exact h.enter shape loc

end Collector.Extends

variable (reading : Reading I) (config : Config)

/-- The parts of a node are collected as their outline is walked. -/
theorem Parts.collect_extends {ss : List Slot} (p : Parts I ss) (loc : Location) :
    (p.collect reading config loc).Extends ((p.outline loc).trace reading config) := by
  induction p generalizing loc with
  | nil => exact .nil
  | name ident rest ih =>
    exact (Collector.Extends.name _ ident).seq (ih loc)
  | names idents rest ih =>
    rw [outline, Outline.trace_append]
    exact (Collector.Extends.names _ idents).seq (ih loc)
  | generated ident rest ih => exact ih loc
  | node form inner rest ihInner ih =>
    rw [outline, Outline.trace_append]
    exact ((ihInner loc).node form loc).seq (ih loc)
  | located own form inner rest ihInner ih =>
    rw [outline, Outline.trace_append]
    exact ((ihInner own).node form own).seq (ih loc)
  | absent rest ih => exact ih loc
  | present item rest ihItem ih =>
    rw [outline, Outline.trace_append]
    exact (ihItem loc).seq (ih loc)
  | stop rest ih => exact ih loc
  | more item rest ihItem ih =>
    rw [outline, Outline.trace_append]
    exact (ihItem loc).seq (ih loc)

/-- Declarations are collected as their outline is walked. -/
theorem Collector.Extends.decls (decls : List (Located (Tree I .decl))) :
    Extends (.decls reading config decls) ((Outline.ofDecls decls).trace reading config) := by
  induction decls with
  | nil => exact .nil
  | cons decl decls ih =>
    have hdecl : (decl.node.collect reading config decl.loc).Extends
        ((decl.node.outline decl.loc).trace reading config) :=
      (decl.node.parts.collect_extends reading config decl.loc).node decl.node.form decl.loc
    have htrace : (Outline.ofDecls (decl :: decls)).trace reading config =
        andThen ((decl.node.outline decl.loc).trace reading config)
          ((Outline.ofDecls decls).trace reading config) :=
      Outline.trace_append reading config _ _
    rw [htrace]
    exact hdecl.seq ih

/-- A module is indexed as it is collected in one pass. -/
theorem Module.indexed_eq_collect (m : Module I) (phase : Phase) :
    m.indexed reading config phase = (m.collect reading config).map (Trace.indexed phase) := by
  have hempty : (Trace.empty ++ ·) = id := funext empty_append
  have hcollect : m.collect reading config = m.outline.trace reading config := by
    calc m.collect reading config
        = (m.outline.trace reading config).map (Trace.empty ++ ·) :=
          Collector.Extends.decls reading config m.decls .empty
      _ = m.outline.trace reading config := by rw [hempty, Except.map_id]; rfl
  rw [Module.indexed, hcollect]

end Xref
