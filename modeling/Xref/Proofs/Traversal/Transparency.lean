import Xref.Indexing.Module
import Xref.Proofs.Traversal.Declarations
import Xref.Proofs.Traversal.Sequence
import Xref.Proofs.Traversal.Sites
import Xref.Proofs.Tree.Flatten

/-!
# Wrappers leave no trace

Where the shapes of wrappers are supported and no breadcrumbs are asked for, a walk through a
wrapper is the walk through what it holds (`Outline.trace_enclose_of_supported`). So a module can be
flattened before it is indexed: the walk through the flat module has the same result, a failed one
included (`Module.trace_flatten`).

Taking off a wrapper hands another location down to what it held. Nothing comes of it, for what a
wrapper holds has locations of its own (`Parts.outline_located`).
-/

namespace Xref

variable {I : Type}

/-! ## Outlines of parts in a row -/

namespace Parts

open Outline

/-- A node with a location of its own takes none from the node around it. -/
theorem outline_located {c : Category} (item : Parts I [.located c]) (loc loc' : Location) :
    item.outline loc = item.outline loc' := by
  cases item with
  | located own form inner rest =>
    cases rest with
    | nil => rfl

theorem outline_concat {ss ts : List Slot} (p : Parts I ss) (q : Parts I ts) (loc : Location) :
    (p.concat q).outline loc = p.outline loc ++ q.outline loc := by
  induction p with
  | nil => rfl
  | name ident rest ih =>
    show Outline.name _ ident ((rest.concat q).outline loc) = _
    rw [ih]
    rfl
  | names idents rest ih =>
    show ofNames _ idents ++ (rest.concat q).outline loc = _
    rw [ih, outline, append_assoc]
  | generated ident rest ih => exact ih
  | node form inner rest _ ih =>
    show enclose _ loc _ ++ (rest.concat q).outline loc = _
    rw [ih, outline, append_assoc]
  | located own form inner rest _ ih =>
    show enclose _ own _ ++ (rest.concat q).outline loc = _
    rw [ih, outline, append_assoc]
  | absent rest ih => exact ih
  | present item rest _ ih =>
    show item.outline loc ++ (rest.concat q).outline loc = _
    rw [ih, outline, append_assoc]
  | stop rest ih => exact ih
  | more item rest _ ih =>
    show item.outline loc ++ (rest.concat q).outline loc = _
    rw [ih, outline, append_assoc]

/-- The outline of items one after the other. -/
def outlineOf {s : Slot} (items : List (Parts I [s])) (loc : Location) : Outline I :=
  items.foldr (fun item rest => item.outline loc ++ rest) .nil

@[simp]
theorem outlineOf_cons {s : Slot} (item : Parts I [s]) (items : List (Parts I [s]))
    (loc : Location) : outlineOf (item :: items) loc = item.outline loc ++ outlineOf items loc :=
  rfl

theorem outlineOf_singleton {s : Slot} (item : Parts I [s]) (loc : Location) :
    outlineOf [item] loc = item.outline loc :=
  append_nil _

theorem outlineOf_append {s : Slot} (a b : List (Parts I [s])) (loc : Location) :
    outlineOf (a ++ b) loc = outlineOf a loc ++ outlineOf b loc := by
  induction a with
  | nil => rfl
  | cons item a ih => rw [List.cons_append, outlineOf_cons, outlineOf_cons, ih, append_assoc]

/-- Items with locations of their own take none from the node around them. -/
theorem outlineOf_located {c : Category} (items : List (Parts I [.located c]))
    (loc loc' : Location) : outlineOf items loc = outlineOf items loc' := by
  induction items with
  | nil => rfl
  | cons item items ih => rw [outlineOf_cons, outlineOf_cons, ih, item.outline_located loc loc']

theorem outline_prepend {s : Slot} {ss : List Slot} (items : List (Parts I [s]))
    (rest : Parts I (.many s :: ss)) (loc : Location) :
    (prepend items rest).outline loc = outlineOf items loc ++ rest.outline loc := by
  induction items with
  | nil => rfl
  | cons item items ih =>
    show item.outline loc ++ (prepend items rest).outline loc = _
    rw [ih, outlineOf_cons, append_assoc]

/-- A list has the outline of its items, and then that of what comes after it. -/
theorem outline_split {s : Slot} {ss : List Slot} (p : Parts I (.many s :: ss)) (loc : Location) :
    p.outline loc = outlineOf p.split.1 loc ++ p.split.2.outline loc := by
  conv => lhs; rw [← prepend_split p]
  exact outline_prepend p.split.1 (stop p.split.2) loc

/-- A list with nothing after it has the outline of its items. -/
theorem outline_split_nil {s : Slot} (p : Parts I [.many s]) (loc : Location) :
    p.outline loc = outlineOf p.split.1 loc := by
  rw [outline_split]
  cases p.split.2 with
  | nil => exact append_nil _

/-- A group has the outline of its bindings. -/
theorem outlineOf_binds (group : Parts I [.node .bindGroup]) (loc : Location) :
    outlineOf group.binds loc = group.outline loc := by
  cases group with
  | node form inner rest =>
    cases form with
    | bindGroup recursive =>
      cases rest with
      | nil =>
        show outlineOf inner.split.1 loc = inner.outline loc ++ Outline.nil
        rw [append_nil]
        exact (outline_split_nil inner loc).symm

/-- Groups have the outline of their bindings. -/
theorem outlineOf_flatMap_binds (groups : List (Parts I [.node .bindGroup])) (loc : Location) :
    outlineOf (groups.flatMap binds) loc = outlineOf groups loc := by
  induction groups with
  | nil => rfl
  | cons group groups ih =>
    rw [List.flatMap_cons, outlineOf_append, outlineOf_binds, ih, outlineOf_cons]

/-- Bindings have the same outline as declarations. -/
theorem ofDecls_map_toDecl (items : List (Parts I [.located .bind])) (loc : Location) :
    Outline.ofDecls (items.map toDecl) = outlineOf items loc := by
  induction items with
  | nil => rfl
  | cons item items ih =>
    have hitem : item.toDecl.node.outline item.toDecl.loc = item.outline loc := by
      cases item with
      | located own form inner rest =>
        cases rest with
        | nil => exact (append_nil _).symm
    show item.toDecl.node.outline item.toDecl.loc ++ Outline.ofDecls (items.map toDecl) = _
    rw [hitem, ih, outlineOf_cons]

end Parts

/-! ## A walk through a wrapper -/

/-- The shapes of coercions, wrappers of bindings and local bindings are supported. -/
structure Support.Transparent (s : Support) : Prop where
  wrap : s.supports .wrap = true
  absBinds : s.supports .absBinds = true
  groupedBinds : s.supports .groupedBinds = true
  ungroupedBinds : s.supports .ungroupedBinds = true

section Walk

open Trace

variable {reading : Reading I} {config : Config}

/-- Without breadcrumbs, a walk through a node of a supported shape is the walk through what it
holds. -/
theorem Outline.trace_enclose_of_supported (hoff : config.breadcrumbs = false) {shape : Shape}
    (h : config.support.supports shape = true) (loc : Location) (inner : Outline I) :
    (enclose (some shape) loc inner).trace reading config = inner.trace reading config := by
  have hmark : mark config shape = id := by
    funext t
    rw [mark, hoff]
    rfl
  rw [trace_enclose, if_pos h, hmark, Except.map_id]
  rfl

/-- What a walk makes of a node depends on what it holds only by the walk through that. -/
theorem Outline.trace_enclose_congr {inner inner' : Outline I}
    (h : inner.trace reading config = inner'.trace reading config) (shape? : Option Shape)
    (loc : Location) :
    (enclose shape? loc inner).trace reading config =
      (enclose shape? loc inner').trace reading config := by
  cases shape? with
  | none => exact h
  | some shape => rw [trace_enclose, trace_enclose, h]

variable (hoff : config.breadcrumbs = false) (hsupp : config.support.Transparent)

include hoff hsupp

/-- A coercion is walked as the expression in it. -/
theorem Form.trace_unwrap {c : Category} (form : Form c) (own loc : Location)
    (inner : Parts I form.slots) :
    ((form.unwrap own inner).outline loc).trace reading config =
      (Outline.enclose form.shape? own (inner.outline own)).trace reading config := by
  have hself : ((Parts.located own form inner .nil).outline loc).trace reading config =
      (Outline.enclose form.shape? own (inner.outline own)).trace reading config :=
    congrArg (Outline.trace reading config) (Outline.append_nil _)
  cases form with
  | wrap =>
    -- The expression stands in the slot of the coercion, which hands down another location.
    have houtline : Parts.outline inner loc = Parts.outline inner own :=
      Parts.outline_located inner loc own
    exact (congrArg _ houtline).trans
      (Outline.trace_enclose_of_supported hoff hsupp.wrap own _).symm
  | _ => exact hself

/-- Bindings in groups are walked as those in one list. -/
theorem Form.trace_ungroup {c : Category} (form : Form c) (loc : Location)
    (inner : Parts I form.slots) :
    ((form.ungroup inner).outline loc).trace reading config =
      (Outline.enclose form.shape? loc (inner.outline loc)).trace reading config := by
  cases form with
  | groupedBinds =>
    have houtline : Parts.outline
        (.prepend (inner.split.1.flatMap Parts.binds) (.stop inner.split.2)) loc =
          inner.outline loc := by
      rw [Parts.outline_prepend, Parts.outlineOf_flatMap_binds]
      exact (Parts.outline_split inner loc).symm
    calc
      _ = (inner.outline loc).trace reading config := by
        rw [← houtline]
        exact Outline.trace_enclose_of_supported hoff hsupp.ungroupedBinds loc _
      _ = _ := (Outline.trace_enclose_of_supported hoff hsupp.groupedBinds loc _).symm
  | _ => rfl

/-- A wrapper of bindings is walked as its bindings. -/
theorem Parts.trace_absBinds (own loc : Location) (inner : Parts I [.many (.located .bind)]) :
    (outlineOf inner.split.1 loc).trace reading config =
      (Outline.enclose (some .absBinds) own (inner.outline own)).trace reading config := by
  have houtline : outlineOf inner.split.1 loc = inner.outline own :=
    (outlineOf_located _ loc own).trans (outline_split_nil inner own).symm
  rw [houtline, Outline.trace_enclose_of_supported hoff hsupp.absBinds]

/-- An item of a list is walked as what takes its place. -/
theorem Parts.trace_members {s : Slot} (item : Parts I [s]) (loc : Location) :
    (outlineOf item.members loc).trace reading config =
      (item.outline loc).trace reading config := by
  have hself : (outlineOf [item] loc).trace reading config =
      (item.outline loc).trace reading config := by
    rw [outlineOf_singleton]
  cases item with
  | located own form inner rest =>
    cases rest with
    | nil =>
      cases form with
      | absBinds =>
        exact (trace_absBinds hoff hsupp own loc inner).trans
          (congrArg (Outline.trace reading config) (Outline.append_nil _).symm)
      | _ => exact hself
  | _ => exact hself

/-- What a node holds is walked as it is once it is flat. -/
theorem Parts.trace_flatten {ss : List Slot} (p : Parts I ss) (loc : Location) :
    (p.flatten.outline loc).trace reading config = (p.outline loc).trace reading config := by
  induction p generalizing loc with
  | nil => rfl
  | name ident rest ih => rw [flatten, outline, outline, Outline.trace_name, Outline.trace_name, ih]
  | names idents rest ih =>
    rw [flatten, outline, outline, Outline.trace_append, Outline.trace_append, ih]
  | generated ident rest ih => exact ih loc
  | node form inner rest ihInner ih =>
    have hnode := (form.trace_ungroup hoff hsupp loc inner.flatten).trans
      (Outline.trace_enclose_congr (ihInner loc) form.shape? loc)
    rw [flatten, outline, outline, Outline.trace_append, Outline.trace_append, ih, ← hnode]
    rfl
  | located own form inner rest ihInner ih =>
    -- What is inside is flat already when the node itself is looked at.
    have hnode := (form.trace_unwrap hoff hsupp own loc inner.flatten).trans
      (Outline.trace_enclose_congr (ihInner own) form.shape? own)
    rw [flatten, outline, Outline.trace_append, ← hnode, ← ih, ← Outline.trace_append]
    exact congrArg (Outline.trace reading config) (outline_concat _ _ loc)
  | absent rest ih => exact ih loc
  | present item rest ihItem ih =>
    rw [flatten, outline, outline, Outline.trace_append, Outline.trace_append, ihItem, ih]
  | stop rest ih => exact ih loc
  | more item rest ihItem ih =>
    rw [flatten, outline_prepend, outline, Outline.trace_append, Outline.trace_append,
      item.flatten.trace_members hoff hsupp, ihItem, ih]

/-- A declaration is walked as what takes its place. -/
theorem Located.trace_flattenDecl (decl : Located (Tree I .decl)) :
    (Outline.ofDecls decl.flattenDecl).trace reading config =
      (decl.node.outline decl.loc).trace reading config := by
  obtain ⟨loc, form, parts⟩ := decl
  have hparts : (Tree.outline ⟨form, parts.flatten⟩ loc).trace reading config =
      (Tree.outline ⟨form, parts⟩ loc).trace reading config :=
    Outline.trace_enclose_congr (parts.trace_flatten hoff hsupp loc) form.shape? loc
  have hself : (Outline.ofDecls [⟨loc, form, parts.flatten⟩]).trace reading config =
      (Tree.outline ⟨form, parts⟩ loc).trace reading config :=
    (congrArg (Outline.trace reading config) (Outline.append_nil _)).trans hparts
  cases form with
  | valueDecl form =>
    cases form with
    | absBinds =>
      calc
        _ = (Parts.outlineOf parts.flatten.split.1 loc).trace reading config :=
          congrArg (Outline.trace reading config) (Parts.ofDecls_map_toDecl _ loc)
        _ = _ := Parts.trace_absBinds hoff hsupp loc loc parts.flatten
        _ = _ := hparts
    | _ => exact hself
  | _ => exact hself

/-- A walk through a flattened module has the result of the walk through the module. -/
theorem Module.trace_flatten (m : Module I) :
    m.flatten.outline.trace reading config = m.outline.trace reading config := by
  unfold outline flatten
  induction m.decls with
  | nil => rfl
  | cons decl decls ih =>
    rw [List.flatMap_cons, Outline.ofDecls_append, Outline.trace_append, ih,
      decl.trace_flattenDecl hoff hsupp, ← Outline.trace_append]
    rfl

end Walk

/-- Wrappers and groups of bindings are transparent where their shapes are supported and breadcrumbs
are off: no wrapper is left in the flattened module, and indexing it has the same result, be it an
error or an index with its reports. -/
theorem Module.indexed_flatten (m : Module I) (reading : Reading I) (config : Config)
    (phase : Phase) (hoff : config.breadcrumbs = false) (hsupp : config.support.Transparent) :
    m.flatten.isFlat = true ∧
      m.flatten.indexed reading config phase = m.indexed reading config phase := by
  refine ⟨m.isFlat_flatten, ?_⟩
  unfold indexed
  rw [m.trace_flatten hoff hsupp]

/-- The function `f` on a line of its own, without arguments and with one right-hand side. -/
def Parts.constant (line : Coordinate) (f : String) (body : Parts Name [.located .expr])
    (binds : Tree Name .localBinds) : Parts Name [.located .bind] :=
  let loc := .known (.onLine "T.hs" line 1 9)
  let rhs : Parts Name [.located .guardedRhs] := .located loc .guardedRhs (.stop body) .nil
  let alternative : Parts Name [.located .alternative] :=
    .located loc .alternative
      (.stop (.node .guardedRhss (.more rhs (.stop (.node binds.form binds.parts .nil))) .nil)) .nil
  .located loc .funBind
    (.name ⟨.known (.onLine "T.hs" line 1 1), .builtIn f "var"⟩
      (.node .alternatives (.more alternative (.stop .nil)) .nil)) .nil

/-- The module `f = g where h = i`, with a coercion around `g`, a wrapper around `h` in a group of
its own, and a wrapper around `f`, which stands nowhere in the text. The location of `i` is
given. -/
def generalisedModule (loc : Location) : Module Name where
  name := none
  decls :=
    let nowhere := .placeholder "generated"
    let expr (text : String) (loc : Location) : Parts Name [.located .expr] :=
      .located loc .varExpr (.name ⟨loc, .builtIn text "var"⟩ .nil) .nil
    let h := Parts.constant 2 "h" (expr "i" loc) ⟨.noBinds, .nil⟩
    let group : Parts Name [.node .bindGroup] :=
      .node (.bindGroup false) (.more (.located nowhere .absBinds (.more h (.stop .nil)) .nil)
        (.stop .nil)) .nil
    let f := Parts.constant 1 "f"
      (.located nowhere .wrap (expr "g" (.known (.onLine "T.hs" 1 5 5))) .nil)
      ⟨.groupedBinds, .more group (.stop (.stop .nil))⟩
    [⟨nowhere, .valueDecl .absBinds, .more f (.stop .nil)⟩]

/-- All layers are taken off the module. If `i` has no place, it is reported or the error, as it is
with the layers on. -/
theorem generalisedModule_flattened :
    let m := generalisedModule (.placeholder "implicit")
    let gap := Gap.imprecise "i" "implicit"
    m.isFlat = false ∧ m.flatten.isFlat = true ∧
      (∃ i, i.size = 3 ∧
        m.indexed .resolved {} .typechecked = .ok ⟨i, [gap.diagnostic .typechecked]⟩ ∧
        m.flatten.indexed .resolved {} .typechecked = .ok ⟨i, [gap.diagnostic .typechecked]⟩) ∧
      m.flatten.indexed .resolved ⟨.strict, false, .full⟩ .typechecked = .error (.gap gap) := by
  intro m gap
  have hfull : Support.full.Transparent := ⟨rfl, rfl, rfl, rfl⟩
  obtain ⟨hflat, hlenient⟩ := m.indexed_flatten .resolved {} .typechecked rfl hfull
  obtain ⟨-, hstrict⟩ :=
    m.indexed_flatten .resolved ⟨.strict, false, .full⟩ .typechecked rfl hfull
  exact ⟨by decide +kernel, hflat, ⟨_, by decide +kernel, rfl, hlenient⟩, hstrict⟩

end Xref
