import Mathlib.Data.List.Basic
import Mathlib.Data.List.Forall2
import Xref.Proofs.Traversal.Failure

/-!
# What strict indexing accepts

Strict indexing accepts a module if every node has a supported shape and every name with a location
has a place and a known tag (`Module.Acceptable`), and the index then holds all these names. Nothing
is said here about reach, though a walk only sees what it reaches: the outermost node of an
unsupported shape is always in reach, so either there is none and a walk gets everywhere
(`Module.reached_of_mem_sites`), or it is to blame itself.
-/

namespace Xref

variable {I : Type}

/-- All nodes of a module are supported, and all names have a place and a known tag. -/
structure Module.Acceptable (m : Module I) (reading : Reading I) (support : Support) : Prop where
  supported : ∀ outer n, .node outer n ∈ m.sites → n.isSupported support = true
  placed : ∀ o ∈ m.occurrences, o.ident.loc.isKnown = true
  tagged : ∀ o ∈ m.occurrences,
    (Namespace.ofTag? (reading.name o.ident.node).tag).isSome = true

namespace Module

variable {m : Module I} {reading : Reading I} {support : Support}

/-- If no unsupported node is reached, then every site is. -/
theorem reached_of_mem_sites
    (h : ∀ outer n, .node outer n ∈ m.sites → Reached support outer → n.isSupported support = true)
    {s : Site I} (hs : s ∈ m.sites) : Reached support s.nodes := by
  refine Decidable.not_not.mp fun hnot => ?_
  obtain ⟨outer, n, shape, -, hnode, houter, hshape, hsupp⟩ := exists_unsupported_around hs hnot
  have hn := h outer n hnode houter
  rw [Node.isSupported_of_shape? hshape, hsupp] at hn
  cases hn

/-- No site of an acceptable module is to blame, whether it is a node or a name. -/
theorem Acceptable.not_blamed (h : m.Acceptable reading support) {s : Site I} (hs : s ∈ m.sites)
    (e : TraversalError) : ¬ Blamed reading support s e := by
  intro hblamed
  cases hblamed with
  | unsupported hreached hshape hsupp =>
    have hn := h.supported _ _ hs
    rw [Node.isSupported_of_shape? hshape, hsupp] at hn
    cases hn
  | unknownTag huntaggable =>
    have htag := h.tagged _ (mem_occurrences.mpr hs)
    rw [huntaggable.2] at htag
    cases htag
  | imprecise hreached hknown hloc =>
    have hplaced := h.placed _ (mem_occurrences.mpr hs)
    rw [hloc] at hplaced
    cases hplaced

/-- A module without a site to blame is acceptable. -/
theorem acceptable_of_not_blamed
    (h : ∀ s ∈ m.sites, ∀ e, ¬ Blamed reading support s e) : m.Acceptable reading support := by
  have hsupported : ∀ outer n, .node outer n ∈ m.sites → Reached support outer →
      n.isSupported support = true := by
    intro outer n hn houter
    refine Bool.of_not_eq_false fun hfalse => ?_
    obtain ⟨shape, hshape, hsupp⟩ := Node.isSupported_eq_false_iff.mp hfalse
    exact h _ hn _ (.unsupported houter hshape hsupp)
  have hreached : ∀ s ∈ m.sites, Reached support s.nodes :=
    fun s hs => reached_of_mem_sites hsupported hs
  have htagged : ∀ o ∈ m.occurrences,
      (Namespace.ofTag? (reading.name o.ident.node).tag).isSome = true := by
    intro o ho
    have hs := mem_occurrences.mp ho
    exact Option.isSome_iff_ne_none.mpr fun hnone => h _ hs _ (.unknownTag ⟨hreached _ hs, hnone⟩)
  refine ⟨fun outer n hn => hsupported outer n hn (hreached _ hn), fun o ho => ?_, htagged⟩
  have hs := mem_occurrences.mp ho
  cases hloc : o.ident.loc with
  | known span => rfl
  | placeholder description =>
    exact absurd (.imprecise (hreached _ hs) (htagged o ho) hloc) (h _ hs _)

theorem acceptable_iff_not_blamed :
    m.Acceptable reading support ↔ ∀ s ∈ m.sites, ∀ e, ¬ Blamed reading support s e :=
  ⟨fun h _ hs => h.not_blamed hs, acceptable_of_not_blamed⟩

/-- Strict indexing succeeds exactly if no site is to blame, that is, on acceptable modules. -/
theorem exists_indexed_strict_iff {breadcrumbs : Bool} {phase : Phase} :
    (∃ r, m.indexed reading ⟨.strict, breadcrumbs, support⟩ phase = .ok r) ↔
      m.Acceptable reading support := by
  rw [acceptable_iff_not_blamed]
  simp only [indexed_strict, Trace.unlessError_eq_ok_iff, exists_and_left,
    List.findSome?_eq_none_iff, Site.fault?_eq_none_iff, exists_eq, and_true]

/-- A walk through an acceptable module reaches every site. -/
theorem Acceptable.reached (h : m.Acceptable reading support) {s : Site I} (hs : s ∈ m.sites) :
    Reached support s.nodes :=
  reached_of_mem_sites (fun outer n hn _ => h.supported outer n hn) hs

/-- Without breadcrumbs, the entries of an acceptable module are those of all its names. -/
theorem Acceptable.filterMap_pair? (h : m.Acceptable reading support) :
    m.sites.filterMap (Site.pair? reading ⟨.strict, false, support⟩) =
      m.occurrences.filterMap (Occurrence.pair? reading) := by
  unfold occurrences
  rw [List.filterMap_filterMap]
  refine List.filterMap_congr fun s hs => ?_
  cases s with
  | node outer n => rfl
  | name o =>
    have hreached : Reached support o.nodes := h.reached hs
    show (if Reached support o.nodes then (o.pair? reading).map id else none) = o.pair? reading
    rw [if_pos hreached, Option.map_id]
    rfl

/-- Every name of an acceptable module has an entry. -/
theorem Acceptable.exists_pair (h : m.Acceptable reading support) {o : Occurrence I}
    (ho : o ∈ m.occurrences) : ∃ e, o.pair? reading = some e := by
  obtain ⟨span, hspan⟩ : ∃ span, o.ident.loc = .known span := by
    have hplaced := h.placed o ho
    cases hloc : o.ident.loc with
    | known span => exact ⟨span, rfl⟩
    | placeholder description =>
      rw [hloc] at hplaced
      cases hplaced
  obtain ⟨r, hr⟩ : ∃ r, reading.record? o.role o.ident.node = some r := by
    rw [← Option.isSome_iff_exists, Reading.record?_isSome]
    exact h.tagged o ho
  exact ⟨(span, r), Occurrence.pair?_eq_some_iff.mpr ⟨hspan, hr⟩⟩

end Module

/-- The entry `e` belongs to the name: it has its span and its record, and the record binds the name
exactly if the node around it binds names. -/
structure Occurrence.HasEntry (reading : Reading I) (o : Occurrence I) (e : Entry) : Prop where
  loc : o.ident.loc = .known e.1
  record : reading.record? o.role o.ident.node = some e.2
  use : e.2.use = o.holder.form.role

/-- If all names have entries, their entries in a row belong to the names, one by one. -/
theorem forall₂_hasEntry {reading : Reading I} {os : List (Occurrence I)}
    (h : ∀ o ∈ os, ∃ e, o.pair? reading = some e) :
    List.Forall₂ (Occurrence.HasEntry reading) os (os.filterMap (Occurrence.pair? reading)) := by
  induction os with
  | nil => exact .nil
  | cons o os ih =>
    obtain ⟨e, he⟩ := h o List.mem_cons_self
    obtain ⟨hloc, hrec⟩ := Occurrence.pair?_eq_some_iff.mp he
    rw [List.filterMap_cons_some he]
    exact .cons ⟨hloc, hrec, Reading.use_of_record? hrec⟩
      (ih fun o' ho' => h o' (List.mem_cons_of_mem o ho'))

/-- Strict indexing accepts exactly the acceptable modules. Without breadcrumbs the index is then
that of the entries of all names with a location, in the order of the text, and nothing is reported.
Generated names are not looked at. -/
theorem Module.indexed_strict_accepts (m : Module I) (reading : Reading I) (support : Support)
    (phase : Phase) :
    (∀ breadcrumbs, (∃ r, m.indexed reading ⟨.strict, breadcrumbs, support⟩ phase = .ok r) ↔
      m.Acceptable reading support) ∧
    (∀ r, m.indexed reading ⟨.strict, false, support⟩ phase = .ok r →
      ∃ pairs, List.Forall₂ (Occurrence.HasEntry reading) m.occurrences pairs ∧
        r = ⟨.ofPairs pairs, []⟩) ∧
    (∀ (generate : I → I) config,
      (m.map id generate).indexed reading config phase = m.indexed reading config phase) := by
  refine ⟨fun _ => Module.exists_indexed_strict_iff, fun r hr => ?_, fun generate config =>
    m.indexed_map_generated generate reading config phase⟩
  have hacceptable := Module.exists_indexed_strict_iff.mp ⟨r, hr⟩
  rw [Module.indexed_strict, Trace.unlessError_eq_ok_iff, hacceptable.filterMap_pair?] at hr
  exact ⟨_, forall₂_hasEntry fun o ho => hacceptable.exists_pair ho, hr.2⟩

/-- The signature `f, g :: T` is accepted, and all three names are indexed. -/
theorem signatureModule_accepted :
    let m := signatureModule (.known (.onLine "T.hs" 1 4 4)) "var"
    m.Acceptable .resolved .full ∧
      ∃ r, m.indexed .resolved ⟨.strict, false, .full⟩ .renamed = .ok r ∧ r.index.size = 3 ∧
        ∃ pairs, List.Forall₂ (Occurrence.HasEntry .resolved) m.occurrences pairs ∧
          r = ⟨.ofPairs pairs, []⟩ :=
  ⟨((Module.indexed_strict_accepts _ _ _ .renamed).1 false).mp ⟨_, rfl⟩,
    _, rfl, rfl, (Module.indexed_strict_accepts _ _ .full .renamed).2.1 _ rfl⟩

end Xref
