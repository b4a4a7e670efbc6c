import Xref.Indexing.Module
import Xref.Proofs.Traversal.Sequence
import Xref.Proofs.Traversal.Sites

/-!
# The walk as a loop over sites

A walk goes down into a tree and comes back, and skips a node with all that it holds. The same trace
is left by a plain loop over the list of sites that looks at each site by itself: a site that is not
reached gives nothing, and every other site gives an error, a gap or an entry (`Site.visit`). That
the two agree is `Module.trace_outline`, by induction on the parts of a tree. The grammar is used
there once, for the role of names, and the support settings twice: a node of an unsupported shape is
a gap, and nothing that it holds is reached.

The loop is then solved for each mode. In lenient mode the first unknown tag is the error, and
without one all entries and all gaps are listed in order (`Module.indexed_lenient`). In strict mode
the first unknown tag or gap is the error, and without one all entries are listed
(`Module.indexed_strict`).
-/

namespace Xref

open Trace

variable {I : Type}

/-! ## Records of names -/

/-- No record can be made of a name exactly when its tag is unknown. -/
theorem Reading.record?_eq_none_iff {reading : Reading I} {use : Use} {ident : I} :
    reading.record? use ident = none ↔ Namespace.ofTag? (reading.name ident).tag = none := by
  unfold Reading.record?
  exact Option.map_eq_none_iff

/-- A record has the name as it is written. -/
theorem Reading.name_of_record? {reading : Reading I} {use : Use} {ident : I} {r : Record}
    (h : reading.record? use ident = some r) : r.name = (reading.name ident).text := by
  unfold Reading.record? at h
  obtain ⟨space, -, rfl⟩ := Option.map_eq_some_iff.mp h
  rfl

/-- A record has the use that it was made for. -/
theorem Reading.use_of_record? {reading : Reading I} {use : Use} {ident : I} {r : Record}
    (h : reading.record? use ident = some r) : r.use = use := by
  unfold Reading.record? at h
  obtain ⟨space, -, rfl⟩ := Option.map_eq_some_iff.mp h
  rfl

/-- A name with an unknown tag ends a walk in either mode, whatever its location is. -/
theorem Reading.trace_of_record?_none {reading : Reading I} {mode : Mode} {use : Use}
    {ident : Located I} (h : reading.record? use ident.node = none) :
    reading.trace mode use ident =
      .error (.unknownTag (reading.name ident.node).tag (reading.name ident.node).text) := by
  unfold Reading.trace Reading.record
  rw [h]
  rfl

/-- A name with a known tag is an entry where it has a span, and a gap where it has none. -/
theorem Reading.trace_of_record?_some {reading : Reading I} {mode : Mode} {use : Use}
    {ident : Located I} {r : Record} (h : reading.record? use ident.node = some r) :
    reading.trace mode use ident =
      match ident.loc with
      | .known span => .ok ⟨[(span, r)], []⟩
      | .placeholder description => skip mode (.imprecise r.name description) := by
  unfold Reading.trace Reading.record
  rw [h]
  rfl

/-- Leaves the breadcrumbs of a path on a record, if the settings ask for it. -/
def Record.markAll (config : Config) (shapes : List Shape) (r : Record) : Record :=
  if config.breadcrumbs then shapes.foldr Record.mark r else r

/-- The breadcrumbs on the trace of one name are those on its record. -/
theorem Trace.markAll_singleton (config : Config) (shapes : List Shape) (span : Span)
    (r : Record) :
    markAll config shapes ⟨[(span, r)], []⟩ = ⟨[(span, r.markAll config shapes)], []⟩ := by
  induction shapes with
  | nil =>
    unfold Record.markAll
    split <;> rfl
  | cons shape shapes ih =>
    show mark config shape (markAll config shapes ⟨[(span, r)], []⟩) = _
    rw [ih]
    unfold mark Record.markAll
    split <;> rfl

/-- A gap has no entries to be marked. -/
theorem Trace.map_markAll_skip (config : Config) (shapes : List Shape) (mode : Mode) (gap : Gap) :
    (skip mode gap).map (markAll config shapes) = skip mode gap := by
  cases mode with
  | strict => rfl
  | lenient =>
    show Except.ok (markAll config shapes ⟨[], [gap]⟩) = .ok ⟨[], [gap]⟩
    congr 1
    induction shapes with
    | nil => rfl
    | cons shape shapes ih =>
      show mark config shape (markAll config shapes ⟨[], [gap]⟩) = _
      rw [ih]
      unfold mark
      split <;> rfl

/-! ## One site -/

/-- The shapes of nodes. -/
def shapesOf (nodes : List Node) : List Shape :=
  nodes.filterMap Node.shape?

/-- The entry of a name that has a known place and a known tag, as it is without breadcrumbs. -/
def Occurrence.pair? (reading : Reading I) (o : Occurrence I) : Option Entry :=
  match o.ident.loc with
  | .known span => (reading.record? o.role o.ident.node).map fun r => (span, r)
  | .placeholder _ => none

theorem Occurrence.pair?_eq_some_iff {reading : Reading I} {o : Occurrence I} {e : Entry} :
    o.pair? reading = some e ↔
      o.ident.loc = .known e.1 ∧ reading.record? o.role o.ident.node = some e.2 := by
  unfold pair?
  cases o.ident.loc with
  | known span =>
    rw [Option.map_eq_some_iff, Location.known.injEq]
    constructor
    · rintro ⟨r, hr, rfl⟩
      exact ⟨rfl, hr⟩
    · rintro ⟨rfl, hr⟩
      exact ⟨e.2, hr, rfl⟩
  | placeholder description => simp

namespace Site

/-- The error of a reached name with an unknown tag. -/
def tagError? (reading : Reading I) (support : Support) : Site I → Option TraversalError
  | node .. => none
  | name o =>
    if Reached support o.nodes ∧ Namespace.ofTag? (reading.name o.ident.node).tag = none then
      some (.unknownTag (reading.name o.ident.node).tag (reading.name o.ident.node).text)
    else none

/-- The gap at a reached site: a node of an unsupported shape, or a name without a known place. -/
def gap? (reading : Reading I) (support : Support) : Site I → Option Gap
  | node outer n =>
    match n.shape? with
    | some shape =>
      if Reached support outer ∧ support.supports shape = false then
        some (.unsupported shape n.loc)
      else none
    | none => none
  | name o =>
    match o.ident.loc with
    | .known _ => none
    | .placeholder description =>
      if Reached support o.nodes then
        some (.imprecise (reading.name o.ident.node).text description)
      else none

/-- The entry of a reached name, with the breadcrumbs of the nodes around it. -/
def pair? (reading : Reading I) (config : Config) : Site I → Option Entry
  | node .. => none
  | name o =>
    if Reached config.support o.nodes then
      (o.pair? reading).map fun e => (e.1, e.2.markAll config (shapesOf o.nodes))
    else none

/-- What a site leaves on the trace of a walk. -/
def visit (reading : Reading I) (config : Config) (s : Site I) : Except TraversalError Trace :=
  match s.tagError? reading config.support with
  | some e => .error e
  | none =>
    match s.gap? reading config.support with
    | some gap => skip config.mode gap
    | none => .ok ⟨(s.pair? reading config).toList, []⟩

section

variable {reading : Reading I} {support : Support}

/-- Only names that are reached have tag errors. -/
theorem tagError?_name_eq_some_iff {o : Occurrence I} {e : TraversalError} :
    (name o).tagError? reading support = some e ↔
      Reached support o.nodes ∧ Namespace.ofTag? (reading.name o.ident.node).tag = none ∧
        e = .unknownTag (reading.name o.ident.node).tag (reading.name o.ident.node).text := by
  rw [tagError?, Option.ite_none_right_eq_some, Option.some.injEq, and_assoc, eq_comm (a := e)]

/-- A node is a gap where it is reached and its shape is not supported. -/
theorem gap?_node_eq_some_iff {outer : List Node} {n : Node} {gap : Gap} :
    (node outer n : Site I).gap? reading support = some gap ↔
      ∃ shape, n.shape? = some shape ∧ Reached support outer ∧ support.supports shape = false ∧
        gap = .unsupported shape n.loc := by
  rw [gap?]
  cases n.shape? with
  | none => simp
  | some shape =>
    simp only [Option.ite_none_right_eq_some, Option.some.injEq, and_assoc, exists_eq_left',
      eq_comm (a := gap)]

/-- A name is a gap where it is reached and has no place. -/
theorem gap?_name_eq_some_iff {o : Occurrence I} {gap : Gap} :
    (name o).gap? reading support = some gap ↔
      ∃ description, o.ident.loc = .placeholder description ∧ Reached support o.nodes ∧
        gap = .imprecise (reading.name o.ident.node).text description := by
  rw [gap?]
  cases o.ident.loc with
  | known span => simp
  | placeholder description =>
    simp only [Option.ite_none_right_eq_some, Option.some.injEq, Location.placeholder.injEq,
      exists_eq_left', eq_comm (a := gap)]

end

variable {reading : Reading I} {config : Config}

/-- The entries of a walk are those of reached names. -/
theorem pair?_eq_some_iff {s : Site I} {e : Entry} :
    s.pair? reading config = some e ↔
      ∃ o e', s = .name o ∧ Reached config.support o.nodes ∧ o.pair? reading = some e' ∧
        e = (e'.1, e'.2.markAll config (shapesOf o.nodes)) := by
  constructor
  · intro h
    cases s with
    | node outer n => cases h
    | name o =>
      rw [pair?] at h
      split at h
      · next hreached =>
        obtain ⟨e', he', heq⟩ := Option.map_eq_some_iff.mp h
        exact ⟨o, e', rfl, hreached, he', heq.symm⟩
      · cases h
  · rintro ⟨o, e', rfl, hreached, he', rfl⟩
    rw [pair?, if_pos hreached, he']
    rfl

/-- A site that is not reached leaves nothing. -/
theorem visit_of_not_reached {s : Site I} (h : ¬ Reached config.support s.nodes) :
    s.visit reading config = .ok .empty := by
  have hgap : s.gap? reading config.support = none := by
    refine Option.eq_none_iff_forall_ne_some.mpr fun gap hgap => h ?_
    cases s with
    | node outer n =>
      obtain ⟨shape, -, hreached, -⟩ := gap?_node_eq_some_iff.mp hgap
      exact hreached
    | name o =>
      obtain ⟨description, -, hreached, -⟩ := gap?_name_eq_some_iff.mp hgap
      exact hreached
  unfold visit
  rw [hgap]
  cases s with
  | node outer n => rfl
  | name o =>
    have htag : (name o).tagError? reading config.support = none := if_neg fun hr => h hr.1
    have hpair : (name o).pair? reading config = none := if_neg h
    rw [htag, hpair]
    rfl

/-- A reached name leaves what it leaves by itself, with the breadcrumbs of the nodes around it. -/
theorem visit_name {o : Occurrence I} (h : Reached config.support o.nodes) :
    (name o).visit reading config =
      (reading.trace config.mode o.role o.ident).map (markAll config (shapesOf o.nodes)) := by
  obtain ⟨outer, holder, loc, ident⟩ := o
  rw [visit, tagError?, gap?, pair?]
  cases hrec : reading.record? (Occurrence.role ⟨outer, holder, loc, ident⟩) ident with
  | none =>
    have htag := Reading.record?_eq_none_iff.mp hrec
    rw [if_pos ⟨h, htag⟩, Reading.trace_of_record?_none hrec]
    rfl
  | some r =>
    have htag : Namespace.ofTag? (reading.name ident).tag ≠ none := fun hn => by
      rw [Reading.record?_eq_none_iff.mpr hn] at hrec
      cases hrec
    rw [if_neg fun hn => htag hn.2, Reading.trace_of_record?_some hrec]
    cases loc with
    | known span =>
      have hpair : Occurrence.pair? reading ⟨outer, holder, .known span, ident⟩ = some (span, r) :=
        Occurrence.pair?_eq_some_iff.mpr ⟨rfl, hrec⟩
      simp only [if_pos h, hpair, Except.map, markAll_singleton]
      rfl
    | placeholder description =>
      simp only [if_pos h, map_markAll_skip, Reading.name_of_record? hrec]

/-- A node of a supported shape, or of none, leaves nothing by itself. -/
theorem visit_node_of_supported {outer : List Node} {n : Node}
    (h : n.isSupported config.support = true) :
    (node outer n : Site I).visit reading config = .ok .empty := by
  have hgap : (node outer n : Site I).gap? reading config.support = none := by
    refine Option.eq_none_iff_forall_ne_some.mpr fun gap hgap => ?_
    obtain ⟨shape, hshape, -, hsupp, -⟩ := gap?_node_eq_some_iff.mp hgap
    rw [Node.isSupported_of_shape? hshape, hsupp] at h
    cases h
  unfold visit
  rw [hgap]
  rfl

/-- A reached node of an unsupported shape is a gap. -/
theorem visit_node_of_unsupported {outer : List Node} {n : Node} {shape : Shape}
    (h : Reached config.support outer) (hshape : n.shape? = some shape)
    (hsupp : config.support.supports shape = false) :
    (node outer n : Site I).visit reading config =
      skip config.mode (.unsupported shape n.loc) := by
  have hgap : (node outer n : Site I).gap? reading config.support =
      some (.unsupported shape n.loc) :=
    gap?_node_eq_some_iff.mpr ⟨shape, hshape, h, hsupp, rfl⟩
  unfold visit
  rw [hgap]
  rfl

end Site

/-! ## The loop -/

/-- Visits sites one after the other. -/
def walk (reading : Reading I) (config : Config) (sites : List (Site I)) :
    Except TraversalError Trace :=
  sites.foldr (fun s rest => andThen (s.visit reading config) rest) (.ok .empty)

variable {reading : Reading I} {config : Config}

theorem walk_cons (s : Site I) (sites : List (Site I)) :
    walk reading config (s :: sites) =
      andThen (s.visit reading config) (walk reading config sites) :=
  rfl

theorem walk_append (a b : List (Site I)) :
    walk reading config (a ++ b) = andThen (walk reading config a) (walk reading config b) := by
  induction a with
  | nil => exact (empty_andThen _).symm
  | cons s a ih => rw [List.cons_append, walk_cons, walk_cons, ih, andThen_assoc]

/-- Sites that are not reached leave nothing. -/
theorem walk_of_not_reached {sites : List (Site I)}
    (h : ∀ s ∈ sites, ¬ Reached config.support s.nodes) :
    walk reading config sites = .ok .empty := by
  induction sites with
  | nil => rfl
  | cons s sites ih =>
    have hs := h s List.mem_cons_self
    have hsites := ih fun t ht => h t (List.mem_cons_of_mem s ht)
    rw [walk_cons, Site.visit_of_not_reached hs, hsites, empty_andThen]

theorem shapesOf_append_singleton (path : List Node) (n : Node) :
    shapesOf (path ++ [n]) = shapesOf path ++ n.shape?.toList := by
  unfold shapesOf
  rw [List.filterMap_append]
  cases h : n.shape? <;> simp [h]

/-! ## The walk through a tree is the loop over its sites -/

/-- Inside the nodes of `path`, the loop over the sites leaves what the walk through the outline
leaves, with the breadcrumbs of the path. -/
def Follows (reading : Reading I) (config : Config) (path : List Node) (sites : List (Site I))
    (outline : Outline I) : Prop :=
  walk reading config sites =
    (outline.trace reading config).map (markAll config (shapesOf path))

namespace Follows

theorem nil (path : List Node) : Follows reading config path [] (.nil : Outline I) := by
  show Except.ok Trace.empty = .ok (markAll config (shapesOf path) .empty)
  rw [markAll_empty]

theorem append {path : List Node} {a b : List (Site I)} {o o' : Outline I}
    (ha : Follows reading config path a o) (hb : Follows reading config path b o') :
    Follows reading config path (a ++ b) (o ++ o') := by
  unfold Follows at *
  rw [walk_append, ha, hb, Outline.trace_append, map_markAll_andThen]

/-- Names in a row. -/
theorem names {outer : List Node} {holder : Node}
    (h : Reached config.support (outer ++ [holder])) (idents : List (Located I)) :
    Follows reading config (outer ++ [holder])
      (idents.map fun ident => .name ⟨outer, holder, ident⟩)
      (.ofNames holder.form.role idents) := by
  induction idents with
  | nil => exact nil _
  | cons ident idents ih =>
    have hname : (Site.name ⟨outer, holder, ident⟩).visit reading config =
        (reading.trace config.mode holder.form.role ident).map
          (markAll config (shapesOf (outer ++ [holder]))) :=
      Site.visit_name h
    unfold Follows at *
    rw [List.map_cons, walk_cons, hname, ih, ← map_markAll_andThen, ← Outline.trace_name]
    rfl

/-- A node with what it holds: a node of an unsupported shape is a gap and hides the rest, any other
node only adds its breadcrumb. -/
theorem enter {path : List Node} {n : Node} {inner : List (Site I)} {outline : Outline I}
    (hpath : Reached config.support path) (hrooted : Rooted (path ++ [n]) inner)
    (hinner : n.isSupported config.support = true →
      Follows reading config (path ++ [n]) inner outline) :
    Follows reading config path (.node path n :: inner)
      (.enclose n.shape? n.loc outline) := by
  unfold Follows at *
  rw [walk_cons]
  cases hshape : n.shape? with
  | none =>
    have hn : n.isSupported config.support = true := by simp [Node.isSupported, hshape]
    rw [Site.visit_node_of_supported hn, empty_andThen, hinner hn, shapesOf_append_singleton,
      hshape]
    simp [Outline.enclose]
  | some shape =>
    rw [Outline.trace_enclose]
    by_cases hsupp : config.support.supports shape = true
    · have hn : n.isSupported config.support = true :=
        (Node.isSupported_of_shape? hshape).trans hsupp
      rw [Site.visit_node_of_supported hn, empty_andThen, hinner hn, shapesOf_append_singleton,
        hshape, if_pos hsupp]
      cases outline.trace reading config with
      | error e => rfl
      | ok t =>
        show Except.ok (markAll config (shapesOf path ++ [shape]) t) = _
        rw [markAll_append_singleton]
        rfl
    · have hsupp' : config.support.supports shape = false := by simpa using hsupp
      have hhidden : walk reading config inner = .ok .empty := by
        refine walk_of_not_reached fun s hs => ?_
        have hmem : n ∈ s.nodes := (hrooted.inside s hs).subset (by simp)
        exact not_reached_of_mem hmem hshape hsupp'
      rw [Site.visit_node_of_unsupported hpath hshape hsupp', hhidden, andThen_empty,
        if_neg hsupp, map_markAll_skip]

end Follows

/-- Going into a node of a supported shape keeps the nodes reached and the role of names that of
the node around them. -/
theorem Node.enter_of_isSupported {support : Support} {path : List Node} {n : Node}
    (hpath : Reached support path) (h : n.isSupported support = true) :
    Reached support (path ++ [n]) ∧
      ∀ slot ∈ n.form.slots, ∀ use ∈ slot.uses, use = n.form.role := by
  constructor
  · intro k hk
    rcases List.mem_append.mp hk with hk | hk
    · exact hpath k hk
    · rw [List.mem_singleton.mp hk]
      exact h
  · exact Form.role_of_mem_slots n.form (Node.access_ne_closed h)

/-- The parts of a node that is reached and supported are walked in the order of their sites. The
induction carries that all slots to come hold names of the role of the holder. -/
theorem Parts.sites_follow {ss : List Slot} (p : Parts I ss) (outer : List Node) (holder : Node)
    (hreached : Reached config.support (outer ++ [holder]))
    (hrole : ∀ slot ∈ ss, ∀ use ∈ slot.uses, use = holder.form.role) :
    Follows reading config (outer ++ [holder]) (p.sites outer holder)
      (p.outline holder.loc) := by
  induction p generalizing outer holder with
  | nil => exact .nil _
  | @name use ss ident rest ih =>
    have huse : use = holder.form.role := hrole (.name use) (by simp) use (by simp [Slot.uses])
    have hrest := ih outer holder hreached fun slot hslot => hrole slot (by simp [hslot])
    rw [sites, outline, huse]
    exact (Follows.names hreached [ident]).append hrest
  | @names use ss idents rest ih =>
    have huse : use = holder.form.role := hrole (.names use) (by simp) use (by simp [Slot.uses])
    have hrest := ih outer holder hreached fun slot hslot => hrole slot (by simp [hslot])
    rw [sites, outline, huse]
    exact (Follows.names hreached idents).append hrest
  | generated ident rest ih =>
    rw [sites, outline]
    exact ih outer holder hreached fun slot hslot => hrole slot (by simp [hslot])
  | node form inner rest ihInner ih =>
    have hrest := ih outer holder hreached fun slot hslot => hrole slot (by simp [hslot])
    rw [sites, outline]
    refine (Follows.enter hreached (inner.sites_rooted _ _) fun hn => ?_).append hrest
    obtain ⟨hreached', hrole'⟩ := Node.enter_of_isSupported hreached hn
    exact ihInner _ _ hreached' hrole'
  | located loc form inner rest ihInner ih =>
    have hrest := ih outer holder hreached fun slot hslot => hrole slot (by simp [hslot])
    rw [sites, outline]
    refine (Follows.enter hreached (inner.sites_rooted _ _) fun hn => ?_).append hrest
    obtain ⟨hreached', hrole'⟩ := Node.enter_of_isSupported hreached hn
    exact ihInner _ _ hreached' hrole'
  | absent rest ih =>
    rw [sites, outline]
    exact ih outer holder hreached fun slot hslot => hrole slot (by simp [hslot])
  | @present slot ss item rest ihItem ih =>
    have hitem := ihItem outer holder hreached fun slot' hslot' => by
      rw [List.mem_singleton.mp hslot']
      exact hrole (.optional slot) (by simp)
    have hrest := ih outer holder hreached fun slot' hslot' => hrole slot' (by simp [hslot'])
    rw [sites, outline]
    exact hitem.append hrest
  | stop rest ih =>
    rw [sites, outline]
    exact ih outer holder hreached fun slot hslot => hrole slot (by simp [hslot])
  | @more slot ss item rest ihItem ih =>
    have hitem := ihItem outer holder hreached fun slot' hslot' => by
      rw [List.mem_singleton.mp hslot']
      exact hrole (.many slot) (by simp)
    rw [sites, outline]
    exact hitem.append (ih outer holder hreached hrole)

/-- A declaration is walked in the order of its sites. -/
theorem Tree.sites_follow {c : Category} (t : Tree I c) (loc : Location) :
    Follows reading config [] (t.sites loc) (t.outline loc) := by
  have hnone : Reached config.support [] := fun n hn => absurd hn List.not_mem_nil
  refine Follows.enter hnone (t.parts.sites_rooted [] ⟨t.form, loc⟩) fun hn => ?_
  obtain ⟨hreached, hrole⟩ := Node.enter_of_isSupported hnone hn
  exact t.parts.sites_follow [] ⟨t.form, loc⟩ hreached hrole

/-- The walk through a module leaves what the loop over its sites leaves. -/
theorem Module.trace_outline (m : Module I) (reading : Reading I) (config : Config) :
    m.outline.trace reading config = walk reading config m.sites := by
  have hdecls : Follows reading config [] m.sites m.outline := by
    unfold Module.sites Module.outline
    induction m.decls with
    | nil => exact .nil _
    | cons decl decls ih =>
      rw [List.flatMap_cons]
      exact (decl.node.sites_follow decl.loc).append ih
  unfold Follows at hdecls
  rw [hdecls]
  cases m.outline.trace reading config <;> rfl

/-! ## The loop in each mode -/

/-- What is left out at a site is not indexed there. -/
theorem Site.pair?_of_gap? {s : Site I} {gap : Gap}
    (h : s.gap? reading config.support = some gap) : s.pair? reading config = none := by
  cases s with
  | node outer n => rfl
  | name o =>
    obtain ⟨outer, holder, loc, ident⟩ := o
    cases loc with
    | known span => cases h
    | placeholder description =>
      rw [pair?]
      split <;> rfl

/-- In lenient mode the first unknown tag is the error. Without one, the trace has the entries of
all sites and the gaps of all sites. -/
theorem walk_lenient (hmode : config.mode = .lenient) (sites : List (Site I)) :
    walk reading config sites =
      unlessError (sites.findSome? (Site.tagError? reading config.support))
        ⟨sites.filterMap (Site.pair? reading config),
          sites.filterMap (Site.gap? reading config.support)⟩ := by
  induction sites with
  | nil => rfl
  | cons s sites ih =>
    rw [walk_cons, ih, Site.visit, List.findSome?_cons]
    cases htag : s.tagError? reading config.support with
    | some e => rfl
    | none =>
      cases hgap : s.gap? reading config.support with
      | some gap =>
        have hpair : s.pair? reading config = none := Site.pair?_of_gap? hgap
        rw [List.filterMap_cons_none hpair, List.filterMap_cons_some hgap, hmode]
        cases sites.findSome? (Site.tagError? reading config.support) <;> rfl
      | none =>
        rw [List.filterMap_cons_none hgap, List.filterMap_cons]
        cases s.pair? reading config <;>
          cases sites.findSome? (Site.tagError? reading config.support) <;> rfl

/-- The error that ends a strict walk at a site: an unknown tag or a gap, in this order. -/
def Site.fault? (reading : Reading I) (support : Support) (s : Site I) : Option TraversalError :=
  (s.tagError? reading support).or ((s.gap? reading support).map .gap)

/-- In strict mode the first unknown tag or gap is the error. Without one, the trace has the entries
of all sites. -/
theorem walk_strict (hmode : config.mode = .strict) (sites : List (Site I)) :
    walk reading config sites =
      unlessError (sites.findSome? (Site.fault? reading config.support))
        ⟨sites.filterMap (Site.pair? reading config), []⟩ := by
  induction sites with
  | nil => rfl
  | cons s sites ih =>
    rw [walk_cons, ih, Site.visit, List.findSome?_cons, Site.fault?]
    cases htag : s.tagError? reading config.support with
    | some e => rfl
    | none =>
      cases hgap : s.gap? reading config.support with
      | some gap =>
        rw [hmode]
        rfl
      | none =>
        rw [List.filterMap_cons]
        cases s.pair? reading config <;>
          cases sites.findSome? (Site.fault? reading config.support) <;> rfl

/-- Lenient indexing, site by site. -/
theorem Module.indexed_lenient (m : Module I) (reading : Reading I) (breadcrumbs : Bool)
    (support : Support) (phase : Phase) :
    m.indexed reading ⟨.lenient, breadcrumbs, support⟩ phase =
      unlessError (m.sites.findSome? (Site.tagError? reading support))
        ⟨.ofPairs (m.sites.filterMap (Site.pair? reading ⟨.lenient, breadcrumbs, support⟩)),
          (m.sites.filterMap (Site.gap? reading support)).map (Gap.diagnostic phase)⟩ := by
  unfold Module.indexed
  rw [m.trace_outline, walk_lenient rfl, map_unlessError]
  rfl

/-- Strict indexing, site by site. -/
theorem Module.indexed_strict (m : Module I) (reading : Reading I) (breadcrumbs : Bool)
    (support : Support) (phase : Phase) :
    m.indexed reading ⟨.strict, breadcrumbs, support⟩ phase =
      unlessError (m.sites.findSome? (Site.fault? reading support))
        ⟨.ofPairs (m.sites.filterMap (Site.pair? reading ⟨.strict, breadcrumbs, support⟩)),
          []⟩ := by
  unfold Module.indexed
  rw [m.trace_outline, walk_strict rfl, map_unlessError]
  rfl

end Xref
