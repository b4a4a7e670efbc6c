import Xref.Settings.Support
import Xref.Tree.Basic

/-!
# The sites of a tree

A site of a tree is a node or a name with a location, seen with all the nodes around it. The sites
of a module are listed straight off its trees, slot by slot and in the order of the text, a node
before what it holds. Nothing here depends on a walk: what a walk does is said over these lists.

A name belongs to the node that holds it, and the form of that node says whether the name is bound
there (`Form.role`). The grammar agrees on every form that can be entered
(`Form.role_of_mem_slots`).

What is kept by the ways in which lists of sites are put together holds of the sites of every module
(`SitesClosed.ofModule`). So the nodes around a site are sites themselves (`Module.node_mem_sites`),
and a site that is out of reach lies in an outermost node of an unsupported shape
(`Module.exists_unsupported_around`).
-/

namespace Xref

/-! ## Forms that bind -/

/-- What nodes of a form do with the names that they hold. Names are bound at the heads of
functions, at the signatures of class methods, at the heads of data types, synonyms and classes, at
data constructors and their fields, at variables and as-patterns, and at type variables. Everywhere
else they are referred to. -/
def Form.role : {c : Category} → Form c → Use
  | _, funBind | _, classOpSig | _, dataDecl | _, synonymDecl | _, classDecl | _, plainCon
  | _, operatorCon | _, recordCon | _, conField | _, varPat | _, asPat | _, userTyVar
  | _, kindedTyVar => .binding
  | _, valueDecl form => form.role
  | _, signatureDecl form => form.role
  | _, typeDecl form => form.role
  | _, instanceDecl form => form.role
  | _, _ => .reference

/-- The uses of the names that fill a slot. -/
def Slot.uses : Slot → List Use
  | name use => [use]
  | names use => [use]
  | optional slot => slot.uses
  | many slot => slot.uses
  | generated | node _ | located _ => []

/-- The names of a form that can be entered all have its role. -/
theorem Form.role_of_mem_slots {c : Category} (form : Form c) (hopen : form.access ≠ .closed) :
    ∀ slot ∈ form.slots, ∀ use ∈ slot.uses, use = form.role := by
  have hall : (form.slots.all fun slot => slot.uses.all fun use => use = form.role) = true := by
    induction form with
    | valueDecl form ih => exact ih hopen
    | signatureDecl form ih => exact ih hopen
    | typeDecl form ih => exact ih hopen
    | instanceDecl form ih => exact ih hopen
    -- The variable of an n+k pattern is bound, but such a pattern is never entered.
    | nPlusKPat value => exact absurd rfl hopen
    | _ => rfl
  intro slot hslot use huse
  exact of_decide_eq_true (List.all_eq_true.mp (List.all_eq_true.mp hall slot hslot) use huse)

/-! ## Nodes and sites -/

/-- A node, with the location under which it is reported. -/
structure Node where
  {category : Category}
  form : Form category
  loc : Location

/-- The shape under which a node is reported. -/
def Node.shape? (n : Node) : Option Shape :=
  n.form.shape?

/-- The shape of the node is supported. A node without a shape is never in the way. -/
def Node.isSupported (support : Support) (n : Node) : Bool :=
  n.shape?.all support.supports

theorem Node.isSupported_of_shape? {support : Support} {n : Node} {shape : Shape}
    (h : n.shape? = some shape) : n.isSupported support = support.supports shape := by
  unfold isSupported
  rw [h]
  rfl

/-- What is in the way of a walk is a node with a shape. -/
theorem Node.isSupported_eq_false_iff {support : Support} {n : Node} :
    n.isSupported support = false ↔
      ∃ shape, n.shape? = some shape ∧ support.supports shape = false := by
  unfold isSupported
  cases n.shape? <;> simp

/-- A node that is not in the way can be looked into. -/
theorem Node.access_ne_closed {support : Support} {n : Node} (h : n.isSupported support = true) :
    n.form.access ≠ .closed := by
  intro hclosed
  cases hshape : n.form.shape? with
  | none =>
    rw [Form.shape?_eq_none_iff.mp hshape] at hclosed
    cases hclosed
  | some shape =>
    have himpl : shape.isImplemented = false :=
      (Form.isImplemented_eq_false_iff hshape).mpr hclosed
    rw [isSupported_of_shape? hshape, Support.supports_eq_false himpl] at h
    cases h

/-- Every one of the nodes has a supported shape, so a walk gets through them. -/
def Reached (support : Support) (nodes : List Node) : Prop :=
  ∀ n ∈ nodes, n.isSupported support = true

instance (support : Support) (nodes : List Node) : Decidable (Reached support nodes) :=
  inferInstanceAs (Decidable (∀ n ∈ nodes, n.isSupported support = true))

/-- A walk does not get through a node of an unsupported shape. -/
theorem not_reached_of_mem {support : Support} {nodes : List Node} {n : Node} {shape : Shape}
    (hn : n ∈ nodes) (hshape : n.shape? = some shape) (hsupp : support.supports shape = false) :
    ¬ Reached support nodes := by
  intro hreached
  have hsupported := hreached n hn
  rw [Node.isSupported_of_shape? hshape, hsupp] at hsupported
  cases hsupported

/-- A name with its location, where it stands in a tree. -/
structure Occurrence (I : Type) where
  /-- The nodes around the holder, the outermost first. -/
  outer : List Node
  /-- The node that the name belongs to. -/
  holder : Node
  ident : Located I

/-- What the occurrence does with its name. -/
def Occurrence.role {I : Type} (o : Occurrence I) : Use :=
  o.holder.form.role

/-- The nodes around an occurrence, the outermost first. -/
def Occurrence.nodes {I : Type} (o : Occurrence I) : List Node :=
  o.outer ++ [o.holder]

/-- A node or a name of a tree. -/
inductive Site (I : Type) where
  /-- A node, after the nodes around it. -/
  | node (outer : List Node) (n : Node)
  | name (o : Occurrence I)

namespace Site

variable {I : Type}

/-- The nodes around a site, the outermost first. -/
def nodes : Site I → List Node
  | node outer _ => outer
  | name o => o.nodes

/-- The occurrence at a site, if it is a name. -/
def occurrence? : Site I → Option (Occurrence I)
  | node .. => none
  | name o => some o

end Site

/-! ## Enumeration -/

variable {I : Type}

/-- The sites of the parts of a node, which is `holder` and stands inside the `outer` nodes. A node
without a location of its own has that of the holder. -/
def Parts.sites : {ss : List Slot} → Parts I ss → List Node → Node → List (Site I)
  | _, nil, _, _ => []
  | _, name ident rest, outer, holder => .name ⟨outer, holder, ident⟩ :: rest.sites outer holder
  | _, names idents rest, outer, holder =>
    idents.map (fun ident => .name ⟨outer, holder, ident⟩) ++ rest.sites outer holder
  | _, generated _ rest, outer, holder => rest.sites outer holder
  | _, node form inner rest, outer, holder =>
    .node (outer ++ [holder]) ⟨form, holder.loc⟩ ::
      inner.sites (outer ++ [holder]) ⟨form, holder.loc⟩ ++ rest.sites outer holder
  | _, located loc form inner rest, outer, holder =>
    .node (outer ++ [holder]) ⟨form, loc⟩ ::
      inner.sites (outer ++ [holder]) ⟨form, loc⟩ ++ rest.sites outer holder
  | _, absent rest, outer, holder => rest.sites outer holder
  | _, present item rest, outer, holder => item.sites outer holder ++ rest.sites outer holder
  | _, stop rest, outer, holder => rest.sites outer holder
  | _, more item rest, outer, holder => item.sites outer holder ++ rest.sites outer holder

/-- The sites of a node that stands in no other, itself the first. -/
def Tree.sites {c : Category} (t : Tree I c) (loc : Location) : List (Site I) :=
  .node [] ⟨t.form, loc⟩ :: t.parts.sites [] ⟨t.form, loc⟩

/-- The sites of a module. -/
def Module.sites (m : Module I) : List (Site I) :=
  m.decls.flatMap fun decl => decl.node.sites decl.loc

/-- All names of a module that have a location, in the order of the text. -/
def Module.occurrences (m : Module I) : List (Occurrence I) :=
  m.sites.filterMap Site.occurrence?

/-- The occurrences of a module are those at its sites. -/
theorem Module.mem_occurrences {m : Module I} {o : Occurrence I} :
    o ∈ m.occurrences ↔ .name o ∈ m.sites := by
  unfold occurrences
  rw [List.mem_filterMap]
  constructor
  · rintro ⟨s, hs, ho⟩
    cases s with
    | node outer n => cases ho
    | name o' =>
      cases ho
      exact hs
  · intro h
    exact ⟨.name o, h, rfl⟩

/-! ## Induction on sites -/

/-- What is said by `P` of nodes and of sites inside them is kept by all the ways in which the sites
of a tree are put together. -/
structure SitesClosed (P : List Node → List (Site I) → Prop) : Prop where
  nil : ∀ path, P path []
  append : ∀ {path a b}, P path a → P path b → P path (a ++ b)
  names : ∀ (outer : List Node) (holder : Node) (idents : List (Located I)),
    P (outer ++ [holder]) (idents.map fun ident => .name ⟨outer, holder, ident⟩)
  /-- A node in front of what it holds. -/
  enter : ∀ {path n} {inner : Parts I n.form.slots}, P (path ++ [n]) (inner.sites path n) →
    P path (.node path n :: inner.sites path n)

namespace SitesClosed

variable {P : List Node → List (Site I) → Prop}

/-- What is closed holds of the sites of all parts. -/
theorem ofParts (h : SitesClosed P) {ss : List Slot} (p : Parts I ss) (outer : List Node)
    (holder : Node) : P (outer ++ [holder]) (p.sites outer holder) := by
  induction p generalizing outer holder with
  | nil => exact h.nil _
  | name ident rest ih =>
    rw [Parts.sites]
    exact h.append (h.names outer holder [ident]) (ih outer holder)
  | names idents rest ih =>
    rw [Parts.sites]
    exact h.append (h.names outer holder idents) (ih outer holder)
  | generated ident rest ih =>
    rw [Parts.sites]
    exact ih outer holder
  | node form inner rest ihInner ih =>
    rw [Parts.sites]
    exact h.append (h.enter (ihInner _ ⟨form, holder.loc⟩)) (ih outer holder)
  | located loc form inner rest ihInner ih =>
    rw [Parts.sites]
    exact h.append (h.enter (ihInner _ ⟨form, loc⟩)) (ih outer holder)
  | absent rest ih =>
    rw [Parts.sites]
    exact ih outer holder
  | present item rest ihItem ih =>
    rw [Parts.sites]
    exact h.append (ihItem outer holder) (ih outer holder)
  | stop rest ih =>
    rw [Parts.sites]
    exact ih outer holder
  | more item rest ihItem ih =>
    rw [Parts.sites]
    exact h.append (ihItem outer holder) (ih outer holder)

/-- What is closed holds of the sites of all modules. -/
theorem ofModule (h : SitesClosed P) (m : Module I) : P [] m.sites := by
  unfold Module.sites
  induction m.decls with
  | nil => exact h.nil _
  | cons decl decls ih =>
    have hdecl : P [] (decl.node.sites decl.loc) :=
      h.enter (h.ofParts decl.node.parts [] ⟨decl.node.form, decl.loc⟩)
    rw [List.flatMap_cons]
    exact h.append hdecl ih

end SitesClosed

/-! ## The nodes around a site are sites -/

/-- Of two steps down from one path towards one place, the longer passes the shorter. -/
theorem eq_or_prefix_of_prefix {path pre all : List Node} {a b : Node}
    (ha : path ++ [a] <+: all) (hb : pre ++ [b] <+: all) (hpre : path <+: pre) :
    (pre = path ∧ b = a) ∨ path ++ [a] <+: pre := by
  obtain ⟨rest, rfl⟩ := hpre
  obtain ⟨afterA, rfl⟩ := ha
  cases rest with
  | nil =>
    rw [List.append_nil, List.append_assoc, List.prefix_append_right_inj] at hb
    exact .inl ⟨List.append_nil path, (List.cons_prefix_cons.mp hb).1⟩
  | cons c rest =>
    rw [List.append_assoc, List.append_assoc, List.prefix_append_right_inj] at hb
    obtain ⟨rfl, -⟩ := List.cons_prefix_cons.mp hb
    exact .inr ⟨rest, by simp⟩

/-- The sites all stand inside the nodes of `path`, and with each of them stand all the nodes that
lead from `path` to it. -/
structure Rooted (path : List Node) (sites : List (Site I)) : Prop where
  inside : ∀ s ∈ sites, path <+: s.nodes
  closed : ∀ s ∈ sites, ∀ pre n, path <+: pre → pre ++ [n] <+: s.nodes → .node pre n ∈ sites

namespace Rooted

theorem nil (path : List Node) : Rooted path ([] : List (Site I)) :=
  ⟨fun _ hs => absurd hs List.not_mem_nil, fun _ hs => absurd hs List.not_mem_nil⟩

theorem append {path : List Node} {a b : List (Site I)} (ha : Rooted path a) (hb : Rooted path b) :
    Rooted path (a ++ b) where
  inside s hs := by
    rcases List.mem_append.mp hs with hs | hs
    · exact ha.inside s hs
    · exact hb.inside s hs
  closed s hs pre n hpre hn := by
    rcases List.mem_append.mp hs with hs | hs
    · exact List.mem_append_left b (ha.closed s hs pre n hpre hn)
    · exact List.mem_append_right a (hb.closed s hs pre n hpre hn)

/-- No node lies between a holder and its names. -/
theorem names (outer : List Node) (holder : Node) (idents : List (Located I)) :
    Rooted (outer ++ [holder]) (idents.map fun ident => .name ⟨outer, holder, ident⟩) where
  inside s hs := by
    obtain ⟨ident, -, rfl⟩ := List.mem_map.mp hs
    exact List.prefix_rfl
  closed s hs pre n hpre hn := by
    obtain ⟨ident, -, rfl⟩ := List.mem_map.mp hs
    have hle := hpre.length_le
    have hle' : (pre ++ [n]).length ≤ (outer ++ [holder]).length := hn.length_le
    rw [List.length_append, List.length_singleton] at hle'
    omega

/-- A node in front of what it holds. -/
theorem enter {path : List Node} {n : Node} {inner : List (Site I)}
    (h : Rooted (path ++ [n]) inner) : Rooted path (.node path n :: inner) where
  inside s hs := by
    rcases List.mem_cons.mp hs with rfl | hs
    · exact List.prefix_rfl
    · exact (List.prefix_append path [n]).trans (h.inside s hs)
  closed s hs pre k hpre hk := by
    rcases List.mem_cons.mp hs with rfl | hs
    · -- Below the node itself there is nothing that leads to it.
      have hle := hpre.length_le
      have hle' : (pre ++ [k]).length ≤ path.length := hk.length_le
      rw [List.length_append, List.length_singleton] at hle'
      omega
    · rcases eq_or_prefix_of_prefix (h.inside s hs) hk hpre with ⟨rfl, rfl⟩ | hpre'
      · exact List.mem_cons_self
      · exact List.mem_cons_of_mem _ (h.closed s hs pre k hpre' hk)

theorem sitesClosed : SitesClosed (Rooted (I := I)) :=
  ⟨nil, append, names, enter⟩

end Rooted

/-- What a node holds stands inside it, with all the nodes in between. -/
theorem Parts.sites_rooted {ss : List Slot} (p : Parts I ss) (outer : List Node) (holder : Node) :
    Rooted (outer ++ [holder]) (p.sites outer holder) :=
  Rooted.sitesClosed.ofParts p outer holder

namespace Module

theorem sites_rooted (m : Module I) : Rooted [] m.sites :=
  Rooted.sitesClosed.ofModule m

/-- Every node around a site of a module is a site of it, too. -/
theorem node_mem_sites {m : Module I} {s : Site I} (hs : s ∈ m.sites) {pre : List Node} {n : Node}
    (hn : pre ++ [n] <+: s.nodes) : .node pre n ∈ m.sites :=
  m.sites_rooted.closed s hs pre n List.nil_prefix hn

/-- Around a site that a walk does not reach there is an outermost node of an unsupported shape. -/
theorem exists_unsupported_around {m : Module I} {s : Site I} (hs : s ∈ m.sites)
    {support : Support} (h : ¬ Reached support s.nodes) :
    ∃ pre n shape, pre ++ [n] <+: s.nodes ∧ .node pre n ∈ m.sites ∧ Reached support pre ∧
      n.shape? = some shape ∧ support.supports shape = false := by
  have hfind : (s.nodes.find? fun n => !n.isSupported support).isSome = true := by
    rw [List.find?_isSome]
    obtain ⟨n, hn⟩ := Classical.not_forall.mp h
    obtain ⟨hmem, hbad⟩ := Classical.not_imp.mp hn
    exact ⟨n, hmem, by simpa using hbad⟩
  obtain ⟨n, hn⟩ := Option.isSome_iff_exists.mp hfind
  obtain ⟨hbad, pre, post, heq, hpre⟩ := List.find?_eq_some_iff_append.mp hn
  have haround : pre ++ [n] <+: s.nodes := ⟨post, by rw [heq, List.append_assoc]; rfl⟩
  rw [Bool.not_eq_true'] at hbad
  obtain ⟨shape, hshape, hsupp⟩ := Node.isSupported_eq_false_iff.mp hbad
  refine ⟨pre, n, shape, haround, node_mem_sites hs haround, fun k hk => ?_, hshape, hsupp⟩
  simpa using hpre k hk

end Module

/-! ## A small module -/

/-- A name that is defined nowhere in source text. -/
def Name.builtIn (text tag : String) : Name :=
  ⟨text, tag, none, .placeholder "built in"⟩

/-- A module with one signature, `f, g :: T`. The location and the tag of `g` are given. -/
def signatureModule (loc : Location) (tag : String) : Module Name where
  name := none
  decls :=
    [⟨.known (.onLine "T.hs" 1 1 9), .signatureDecl .typeSig,
      .names [⟨.known (.onLine "T.hs" 1 1 1), .builtIn "f" "var"⟩, ⟨loc, .builtIn "g" tag⟩]
        (.located (.known (.onLine "T.hs" 1 9 9)) .nameType
          (.name ⟨.known (.onLine "T.hs" 1 9 9), .builtIn "T" "tc"⟩ .nil) .nil)⟩]

end Xref
