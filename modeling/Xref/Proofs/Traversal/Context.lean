import Xref.Proofs.Traversal.Sites

/-!
# Modules with an expression left open

A context is a module in which one expression is left open, under any nodes and next to any others.
It has a constructor for every way in which the open place can lie: at the first slot, inside what
fills the first slot, or at a later slot. An expression is put in by `Module.Context.plug`.

Whatever is put in, the sites of the module are the same before and after it, and so are the nodes
around it (`Module.Context.exists_surrounds`). And contexts leave nothing out: at every expression
that is a site of a module the module can be opened (`Module.exists_context`). The grammar is used
for that once, since an expression never stands without a location of its own
(`Form.locatesExprs`).
-/

namespace Xref

variable {I : Type}

/-! ## Contexts -/

/-- What fills a list of slots, with one expression left open. -/
inductive Parts.Context (I : Type) : List Slot → Type where
  /-- The expression at the first slot is open. -/
  | hole {ss : List Slot} (rest : Parts I ss) : Context I (.located .expr :: ss)
  -- The open place is inside what fills the first slot.
  | inNode {c : Category} {ss : List Slot} (form : Form c) (inner : Context I form.slots)
      (rest : Parts I ss) : Context I (.node c :: ss)
  | inLocated {c : Category} {ss : List Slot} (loc : Location) (form : Form c)
      (inner : Context I form.slots) (rest : Parts I ss) : Context I (.located c :: ss)
  | inPresent {s : Slot} {ss : List Slot} (item : Context I [s]) (rest : Parts I ss) :
      Context I (.optional s :: ss)
  | inMore {s : Slot} {ss : List Slot} (item : Context I [s]) (rest : Parts I (.many s :: ss)) :
      Context I (.many s :: ss)
  -- The open place is at a later slot.
  | afterName {use : Use} {ss : List Slot} (ident : Located I) (rest : Context I ss) :
      Context I (.name use :: ss)
  | afterNames {use : Use} {ss : List Slot} (idents : List (Located I)) (rest : Context I ss) :
      Context I (.names use :: ss)
  | afterGenerated {ss : List Slot} (ident : I) (rest : Context I ss) : Context I (.generated :: ss)
  | afterNode {c : Category} {ss : List Slot} (form : Form c) (inner : Parts I form.slots)
      (rest : Context I ss) : Context I (.node c :: ss)
  | afterLocated {c : Category} {ss : List Slot} (loc : Location) (form : Form c)
      (inner : Parts I form.slots) (rest : Context I ss) : Context I (.located c :: ss)
  | afterAbsent {s : Slot} {ss : List Slot} (rest : Context I ss) : Context I (.optional s :: ss)
  | afterPresent {s : Slot} {ss : List Slot} (item : Parts I [s]) (rest : Context I ss) :
      Context I (.optional s :: ss)
  | afterStop {s : Slot} {ss : List Slot} (rest : Context I ss) : Context I (.many s :: ss)
  | afterMore {s : Slot} {ss : List Slot} (item : Parts I [s]) (rest : Context I (.many s :: ss)) :
      Context I (.many s :: ss)

/-- Puts an expression at the open place. -/
def Parts.Context.plug : {ss : List Slot} → Context I ss → Located (Tree I .expr) → Parts I ss
  | _, hole rest, e => .located e.loc e.node.form e.node.parts rest
  | _, inNode form inner rest, e => .node form (inner.plug e) rest
  | _, inLocated loc form inner rest, e => .located loc form (inner.plug e) rest
  | _, inPresent item rest, e => .present (item.plug e) rest
  | _, inMore item rest, e => .more (item.plug e) rest
  | _, afterName ident rest, e => .name ident (rest.plug e)
  | _, afterNames idents rest, e => .names idents (rest.plug e)
  | _, afterGenerated ident rest, e => .generated ident (rest.plug e)
  | _, afterNode form inner rest, e => .node form inner (rest.plug e)
  | _, afterLocated loc form inner rest, e => .located loc form inner (rest.plug e)
  | _, afterAbsent rest, e => .absent (rest.plug e)
  | _, afterPresent item rest, e => .present item (rest.plug e)
  | _, afterStop rest, e => .stop (rest.plug e)
  | _, afterMore item rest, e => .more item (rest.plug e)

/-- A module with one expression left open. -/
structure Module.Context (I : Type) where
  name : Option String
  /-- The declarations before the one with the open place. -/
  before : List (Located (Tree I .decl))
  loc : Location
  form : Form .decl
  parts : Parts.Context I form.slots
  /-- The declarations after the one with the open place. -/
  after : List (Located (Tree I .decl))

/-- Puts an expression at the open place. -/
def Module.Context.plug (context : Module.Context I) (e : Located (Tree I .expr)) : Module I where
  name := context.name
  decls := context.before ++ ⟨context.loc, context.form, context.parts.plug e⟩ :: context.after

/-! ## The sites around an open place -/

/-- The sites of a node that stands inside the nodes of `path`, itself the first. -/
def Located.sitesIn {c : Category} (t : Located (Tree I c)) (path : List Node) : List (Site I) :=
  .node path ⟨t.node.form, t.loc⟩ :: t.node.parts.sites path ⟨t.node.form, t.loc⟩

/-- Whatever expression is put in, its sites come after the same sites and before the same sites,
inside the same nodes. -/
def Surrounds (before : List (Site I)) (path : List Node) (after : List (Site I))
    (sites : Located (Tree I .expr) → List (Site I)) : Prop :=
  ∀ e, sites e = before ++ e.sitesIn path ++ after

namespace Surrounds

variable {before after : List (Site I)} {path : List Node}
  {sites : Located (Tree I .expr) → List (Site I)}

theorem hole (path : List Node) : Surrounds ([] : List (Site I)) path [] (·.sitesIn path) :=
  fun _ => (List.append_nil _).symm

/-- More sites in front. -/
theorem prepend (h : Surrounds before path after sites) (front : List (Site I)) :
    Surrounds (front ++ before) path after fun e => front ++ sites e := by
  intro e
  show front ++ sites e = _
  rw [h e, List.append_assoc, List.append_assoc, List.append_assoc]

/-- More sites at the end. -/
theorem append (h : Surrounds before path after sites) (back : List (Site I)) :
    Surrounds before path (after ++ back) fun e => sites e ++ back := by
  intro e
  show sites e ++ back = _
  rw [h e, List.append_assoc]

end Surrounds

/-- Putting an expression into parts leaves the sites around it as they are. -/
theorem Parts.Context.exists_surrounds {ss : List Slot} (context : Context I ss)
    (outer : List Node) (holder : Node) :
    ∃ before path after,
      Surrounds before path after fun e => (context.plug e).sites outer holder := by
  induction context generalizing outer holder with
  | hole rest => exact ⟨_, _, _, (Surrounds.hole _).append (rest.sites outer holder)⟩
  | inNode form inner rest ih =>
    obtain ⟨before, path, after, h⟩ := ih (outer ++ [holder]) ⟨form, holder.loc⟩
    exact ⟨_, _, _, (h.prepend [.node _ _]).append (rest.sites outer holder)⟩
  | inLocated loc form inner rest ih =>
    obtain ⟨before, path, after, h⟩ := ih (outer ++ [holder]) ⟨form, loc⟩
    exact ⟨_, _, _, (h.prepend [.node _ _]).append (rest.sites outer holder)⟩
  | inPresent item rest ih =>
    obtain ⟨before, path, after, h⟩ := ih outer holder
    exact ⟨_, _, _, h.append (rest.sites outer holder)⟩
  | inMore item rest ih =>
    obtain ⟨before, path, after, h⟩ := ih outer holder
    exact ⟨_, _, _, h.append (rest.sites outer holder)⟩
  | afterName ident rest ih =>
    obtain ⟨before, path, after, h⟩ := ih outer holder
    exact ⟨_, _, _, h.prepend [.name ⟨outer, holder, ident⟩]⟩
  | afterNames idents rest ih =>
    obtain ⟨before, path, after, h⟩ := ih outer holder
    exact ⟨_, _, _, h.prepend (idents.map fun ident => .name ⟨outer, holder, ident⟩)⟩
  | afterGenerated ident rest ih => exact ih outer holder
  | afterNode form inner rest ih =>
    obtain ⟨before, path, after, h⟩ := ih outer holder
    exact ⟨_, _, _, h.prepend (.node _ _ :: inner.sites (outer ++ [holder]) ⟨form, holder.loc⟩)⟩
  | afterLocated loc form inner rest ih =>
    obtain ⟨before, path, after, h⟩ := ih outer holder
    exact ⟨_, _, _, h.prepend (.node _ _ :: inner.sites (outer ++ [holder]) ⟨form, loc⟩)⟩
  | afterAbsent rest ih => exact ih outer holder
  | afterPresent item rest ih =>
    obtain ⟨before, path, after, h⟩ := ih outer holder
    exact ⟨_, _, _, h.prepend (item.sites outer holder)⟩
  | afterStop rest ih => exact ih outer holder
  | afterMore item rest ih =>
    obtain ⟨before, path, after, h⟩ := ih outer holder
    exact ⟨_, _, _, h.prepend (item.sites outer holder)⟩

namespace Module.Context

/-- The sites around an open place in a declaration, seen in the module. -/
theorem surrounds_sites {context : Module.Context I} {before after : List (Site I)}
    {path : List Node}
    (h : Surrounds before path after fun e =>
      (context.parts.plug e).sites [] ⟨context.form, context.loc⟩) :
    Surrounds
      ((context.before.flatMap fun decl => decl.node.sites decl.loc) ++
        (.node [] ⟨context.form, context.loc⟩ :: before))
      path (after ++ context.after.flatMap fun decl => decl.node.sites decl.loc)
      fun e => (context.plug e).sites := by
  intro e
  have hdecl := ((h.prepend [.node [] ⟨context.form, context.loc⟩]).append
    (context.after.flatMap fun decl => decl.node.sites decl.loc)).prepend
    (context.before.flatMap fun decl => decl.node.sites decl.loc) e
  rw [← List.singleton_append, ← hdecl]
  show List.flatMap _ (context.before ++ _ :: context.after) = _
  rw [List.flatMap_append, List.flatMap_cons]
  rfl

/-- The sites of a module before and after an open place do not depend on what is put in. -/
theorem exists_surrounds (context : Module.Context I) :
    ∃ before path after, Surrounds before path after fun e => (context.plug e).sites := by
  obtain ⟨before, path, after, h⟩ :=
    context.parts.exists_surrounds [] ⟨context.form, context.loc⟩
  exact ⟨_, path, _, surrounds_sites h⟩

end Module.Context

/-! ## Opening a module at an expression -/

/-- The slot holds no expression without a location of its own. -/
def Slot.locatesExprs : Slot → Bool
  | node c => c ≠ .expr
  | optional slot => slot.locatesExprs
  | many slot => slot.locatesExprs
  | name _ | names _ | generated | located _ => true

/-- Every expression has a location of its own. -/
theorem Form.locatesExprs {c : Category} (form : Form c) :
    ∀ slot ∈ form.slots, slot.locatesExprs = true := by
  refine List.all_eq_true.mp ?_
  induction form with
  | valueDecl form ih => exact ih
  | signatureDecl form ih => exact ih
  | typeDecl form ih => exact ih
  | instanceDecl form ih => exact ih
  | _ => rfl

/-- What comes in two lists after one another is in the first or in the second. -/
theorem append_eq_append_cons {α : Type} {front back before rest : List α} {x : α}
    (h : front ++ back = before ++ x :: rest) :
    (∃ more, front = before ++ x :: more) ∨
      ∃ between, before = front ++ between ∧ back = between ++ x :: rest := by
  rcases List.append_eq_append_iff.mp h with ⟨between, hbefore, hback⟩ | ⟨more, hfront, hrest⟩
  · exact .inr ⟨between, hbefore, hback⟩
  · cases more with
    | nil =>
      rw [List.append_nil] at hfront
      exact .inr ⟨[], by rw [hfront, List.append_nil], hrest.symm⟩
    | cons y more =>
      obtain ⟨rfl, -⟩ := List.cons.inj hrest
      exact .inl ⟨more, hfront⟩

/-- Parts can be opened at every expression among their sites. The expression is the first node, or
a site of what the first slot holds, or a site of the rest. -/
theorem Parts.exists_context {ss : List Slot} (p : Parts I ss)
    (hss : ∀ slot ∈ ss, slot.locatesExprs = true) (outer : List Node) (holder : Node)
    {before rest : List (Site I)} {path : List Node} {form : Form .expr} {loc : Location}
    (h : p.sites outer holder = before ++ .node path ⟨form, loc⟩ :: rest) :
    ∃ (context : Context I ss) (parts : Parts I form.slots) (after : List (Site I)),
      p = context.plug ⟨loc, form, parts⟩ ∧
        Surrounds before path after fun e => (context.plug e).sites outer holder := by
  induction p generalizing outer holder before rest with
  | nil => exact absurd h.symm (List.append_ne_nil_of_right_ne_nil _ (List.cons_ne_nil _ _))
  | name ident tail ih =>
    have htail := (List.forall_mem_cons.mp hss).2
    cases before with
    | nil => cases h
    | cons site before =>
      obtain ⟨rfl, hrest⟩ := List.cons.inj h
      obtain ⟨context, parts, after, rfl, hsites⟩ := ih htail outer holder hrest
      exact ⟨.afterName ident context, parts, after, rfl, hsites.prepend [_]⟩
  | names idents tail ih =>
    have htail := (List.forall_mem_cons.mp hss).2
    rw [sites] at h
    rcases append_eq_append_cons h with ⟨more, hnames⟩ | ⟨between, rfl, hrest⟩
    · have hmem : Site.node path ⟨form, loc⟩ ∈
          idents.map fun ident => Site.name ⟨outer, holder, ident⟩ := by
        rw [hnames]
        exact List.mem_append_right before List.mem_cons_self
      obtain ⟨ident, -, hname⟩ := List.mem_map.mp hmem
      cases hname
    · obtain ⟨context, parts, after, rfl, hsites⟩ := ih htail outer holder hrest
      exact ⟨.afterNames idents context, parts, after, rfl, hsites.prepend _⟩
  | generated ident tail ih =>
    have htail := (List.forall_mem_cons.mp hss).2
    obtain ⟨context, parts, after, rfl, hsites⟩ := ih htail outer holder h
    exact ⟨.afterGenerated ident context, parts, after, rfl, hsites⟩
  | node form' inner tail ihInner ih =>
    obtain ⟨hslot, htail⟩ := List.forall_mem_cons.mp hss
    rw [sites] at h
    rcases append_eq_append_cons h with ⟨more, hfirst⟩ | ⟨between, rfl, hrest⟩
    · cases before with
      | nil =>
        -- The node has no location of its own, so it is no expression.
        cases hfirst
        cases hslot
      | cons site before =>
        obtain ⟨rfl, hinner⟩ := List.cons.inj hfirst
        obtain ⟨context, parts, after, rfl, hsites⟩ := ihInner form'.locatesExprs _ _ hinner
        exact ⟨.inNode form' context tail, parts, _, rfl, (hsites.prepend [_]).append _⟩
    · obtain ⟨context, parts, after, rfl, hsites⟩ := ih htail outer holder hrest
      exact ⟨.afterNode form' inner context, parts, after, rfl, hsites.prepend _⟩
  | located loc' form' inner tail ihInner ih =>
    have htail := (List.forall_mem_cons.mp hss).2
    rw [sites] at h
    rcases append_eq_append_cons h with ⟨more, hfirst⟩ | ⟨between, rfl, hrest⟩
    · cases before with
      | nil =>
        cases hfirst
        exact ⟨.hole tail, inner, _, rfl, (Surrounds.hole _).append _⟩
      | cons site before =>
        obtain ⟨rfl, hinner⟩ := List.cons.inj hfirst
        obtain ⟨context, parts, after, rfl, hsites⟩ := ihInner form'.locatesExprs _ _ hinner
        exact ⟨.inLocated loc' form' context tail, parts, _, rfl, (hsites.prepend [_]).append _⟩
    · obtain ⟨context, parts, after, rfl, hsites⟩ := ih htail outer holder hrest
      exact ⟨.afterLocated loc' form' inner context, parts, after, rfl, hsites.prepend _⟩
  | absent tail ih =>
    have htail := (List.forall_mem_cons.mp hss).2
    obtain ⟨context, parts, after, rfl, hsites⟩ := ih htail outer holder h
    exact ⟨.afterAbsent context, parts, after, rfl, hsites⟩
  | present item tail ihItem ih =>
    obtain ⟨hslot, htail⟩ := List.forall_mem_cons.mp hss
    rw [sites] at h
    rcases append_eq_append_cons h with ⟨more, hfirst⟩ | ⟨between, rfl, hrest⟩
    · obtain ⟨context, parts, after, rfl, hsites⟩ :=
        ihItem (List.forall_mem_singleton.mpr hslot) outer holder hfirst
      exact ⟨.inPresent context tail, parts, _, rfl, hsites.append _⟩
    · obtain ⟨context, parts, after, rfl, hsites⟩ := ih htail outer holder hrest
      exact ⟨.afterPresent item context, parts, after, rfl, hsites.prepend _⟩
  | stop tail ih =>
    have htail := (List.forall_mem_cons.mp hss).2
    obtain ⟨context, parts, after, rfl, hsites⟩ := ih htail outer holder h
    exact ⟨.afterStop context, parts, after, rfl, hsites⟩
  | more item tail ihItem ih =>
    obtain ⟨hslot, -⟩ := List.forall_mem_cons.mp hss
    rw [sites] at h
    rcases append_eq_append_cons h with ⟨more, hfirst⟩ | ⟨between, rfl, hrest⟩
    · obtain ⟨context, parts, after, rfl, hsites⟩ :=
        ihItem (List.forall_mem_singleton.mpr hslot) outer holder hfirst
      exact ⟨.inMore context tail, parts, _, rfl, hsites.append _⟩
    · obtain ⟨context, parts, after, rfl, hsites⟩ := ih hss outer holder hrest
      exact ⟨.afterMore item context, parts, after, rfl, hsites.prepend _⟩

/-- What comes in a concatenation comes in one of the lists. -/
theorem flatMap_eq_append_cons {α β : Type} {f : α → List β} {items : List α}
    {before rest : List β} {x : β} (h : items.flatMap f = before ++ x :: rest) :
    ∃ front item back between more, items = front ++ item :: back ∧
      before = front.flatMap f ++ between ∧ f item = between ++ x :: more := by
  induction items generalizing before with
  | nil => exact absurd h.symm (List.append_ne_nil_of_right_ne_nil _ (List.cons_ne_nil _ _))
  | cons item items ih =>
    rw [List.flatMap_cons] at h
    rcases append_eq_append_cons h with ⟨more, hitem⟩ | ⟨between, rfl, hitems⟩
    · exact ⟨[], item, items, before, more, rfl, rfl, hitem⟩
    · obtain ⟨front, item', back, between', more, rfl, rfl, hitem'⟩ := ih hitems
      exact ⟨item :: front, item', back, between', more, rfl,
        by rw [List.flatMap_cons, List.append_assoc], hitem'⟩

/-- A module can be opened at every expression among its sites. -/
theorem Module.exists_context {m : Module I} {before rest : List (Site I)} {path : List Node}
    {form : Form .expr} {loc : Location}
    (h : m.sites = before ++ .node path ⟨form, loc⟩ :: rest) :
    ∃ (context : Module.Context I) (parts : Parts I form.slots) (after : List (Site I)),
      m = context.plug ⟨loc, form, parts⟩ ∧
        Surrounds before path after fun e => (context.plug e).sites := by
  obtain ⟨name, decls⟩ := m
  obtain ⟨front, ⟨declLoc, declForm, declParts⟩, back, between, more, hdecls, rfl, hdecl⟩ :=
    flatMap_eq_append_cons h
  cases between with
  | nil => cases hdecl
  | cons site between =>
    obtain ⟨rfl, hparts⟩ := List.cons.inj hdecl
    obtain ⟨context, parts, after, rfl, hsites⟩ :=
      declParts.exists_context declForm.locatesExprs [] ⟨declForm, declLoc⟩ hparts
    refine ⟨⟨name, front, declLoc, declForm, context, back⟩, parts, _, ?_,
      Module.Context.surrounds_sites hsites⟩
    show Module.mk name decls = _
    rw [show decls = _ from hdecls]
    rfl

end Xref
