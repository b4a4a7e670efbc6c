import Xref.Proofs.Traversal.Identifiers
import Xref.Proofs.Traversal.Walk

/-!
# What ends a walk

A walk ends early at the first site that is to blame. Three kinds of sites are: a node of an
unsupported shape, a name with an unknown tag, and a name with a known tag and no place. They have
to be reached, so nothing inside a node that was passed over is ever to blame. `Blamed` lists the
three with the errors they give. A name that has neither a known tag nor a place is blamed for its
tag.

A strict walk ends at the first site that is to blame (`Module.indexed_strict_eq_error_iff`). A
lenient walk passes over the gaps, so only a name with an unknown tag ends it, and it does so
wherever the name is said to be (`Module.indexed_lenient_eq_error_iff`).
-/

namespace Xref

variable {I : Type}

/-! ## Sites to blame -/

/-- The walk meets the name, and its tag belongs to no name space. -/
def Occurrence.Untaggable (reading : Reading I) (support : Support) (o : Occurrence I) : Prop :=
  Reached support o.nodes ∧ Namespace.ofTag? (reading.name o.ident.node).tag = none

instance (reading : Reading I) (support : Support) (o : Occurrence I) :
    Decidable (o.Untaggable reading support) :=
  inferInstanceAs (Decidable (_ ∧ _))

/-- The error of a name whose tag is unknown. -/
def Occurrence.unknownTag (reading : Reading I) (o : Occurrence I) : TraversalError :=
  .unknownTag (reading.name o.ident.node).tag (reading.name o.ident.node).text

/-- The site is to blame, with the error, if a walk does not pass over anything. -/
inductive Blamed (reading : Reading I) (support : Support) : Site I → TraversalError → Prop where
  /-- A node of an unsupported shape, inside supported ones. -/
  | unsupported {outer : List Node} {n : Node} {shape : Shape} : Reached support outer →
      n.shape? = some shape → support.supports shape = false →
      Blamed reading support (.node outer n) (.gap (.unsupported shape n.loc))
  /-- A name with an unknown tag, wherever it is. -/
  | unknownTag {o : Occurrence I} : o.Untaggable reading support →
      Blamed reading support (.name o) (o.unknownTag reading)
  /-- A name with a known tag that has no place. -/
  | imprecise {o : Occurrence I} {description : String} : Reached support o.nodes →
      (Namespace.ofTag? (reading.name o.ident.node).tag).isSome = true →
      o.ident.loc = .placeholder description →
      Blamed reading support (.name o)
        (.gap (.imprecise (reading.name o.ident.node).text description))

variable {reading : Reading I} {support : Support}

/-- A site ends a strict walk, with an error, exactly where it is to blame for it. -/
theorem Site.fault?_eq_some_iff {s : Site I} {e : TraversalError} :
    s.fault? reading support = some e ↔ Blamed reading support s e := by
  unfold Site.fault?
  cases s with
  | node outer n =>
    show ((node outer n : Site I).gap? reading support).map TraversalError.gap = some e ↔ _
    rw [Option.map_eq_some_iff]
    constructor
    · rintro ⟨gap, hgap, rfl⟩
      obtain ⟨shape, hshape, hreached, hsupp, rfl⟩ := Site.gap?_node_eq_some_iff.mp hgap
      exact .unsupported hreached hshape hsupp
    · intro h
      cases h with
      | unsupported hreached hshape hsupp =>
        exact ⟨_, Site.gap?_node_eq_some_iff.mpr ⟨_, hshape, hreached, hsupp, rfl⟩, rfl⟩
  | name o =>
    rw [Option.or_eq_some_iff, Option.map_eq_some_iff]
    constructor
    · rintro (htag | ⟨htag, gap, hgap, rfl⟩)
      · obtain ⟨hreached, hunknown, rfl⟩ := Site.tagError?_name_eq_some_iff.mp htag
        exact .unknownTag ⟨hreached, hunknown⟩
      · obtain ⟨description, hloc, hreached, rfl⟩ := Site.gap?_name_eq_some_iff.mp hgap
        -- The tag was looked at first and found to be known.
        refine .imprecise hreached (Option.isSome_iff_ne_none.mpr fun hunknown => ?_) hloc
        rw [Site.tagError?_name_eq_some_iff.mpr ⟨hreached, hunknown, rfl⟩] at htag
        cases htag
    · intro h
      cases h with
      | unknownTag huntaggable =>
        exact .inl (Site.tagError?_name_eq_some_iff.mpr ⟨huntaggable.1, huntaggable.2, rfl⟩)
      | imprecise hreached hknown hloc =>
        refine .inr ⟨?_, _, Site.gap?_name_eq_some_iff.mpr ⟨_, hloc, hreached, rfl⟩, rfl⟩
        refine Option.eq_none_iff_forall_ne_some.mpr fun e htag => ?_
        obtain ⟨-, hunknown, -⟩ := Site.tagError?_name_eq_some_iff.mp htag
        rw [hunknown] at hknown
        cases hknown

/-- A site that does not end a strict walk is not to blame for anything. -/
theorem Site.fault?_eq_none_iff {s : Site I} :
    s.fault? reading support = none ↔ ∀ e, ¬ Blamed reading support s e := by
  rw [Option.eq_none_iff_forall_ne_some]
  exact forall_congr' fun e => not_congr Site.fault?_eq_some_iff

/-! ## The first site to blame -/

/-- The first tag error among sites is that of the first untaggable name among their names. -/
theorem findSome?_tagError? (sites : List (Site I)) :
    sites.findSome? (Site.tagError? reading support) =
      ((sites.filterMap Site.occurrence?).find? fun o => o.Untaggable reading support).map
        (Occurrence.unknownTag reading) := by
  induction sites with
  | nil => rfl
  | cons s sites ih =>
    cases s with
    | node outer n => exact ih
    | name o =>
      have hocc : (Site.name o).occurrence? = some o := rfl
      rw [List.findSome?_cons, List.filterMap_cons_some hocc, List.find?_cons]
      by_cases h : o.Untaggable reading support
      · have htag : (Site.name o).tagError? reading support = some (o.unknownTag reading) :=
          Site.tagError?_name_eq_some_iff.mpr ⟨h.1, h.2, rfl⟩
        rw [htag, decide_eq_true h]
        rfl
      · have htag : (Site.name o).tagError? reading support = none := if_neg h
        rw [htag, decide_eq_false h]
        exact ih

namespace Module

variable {m : Module I} {breadcrumbs : Bool} {phase : Phase} {e : TraversalError}

/-- A lenient walk fails at the first untaggable name, and nowhere else. -/
theorem indexed_lenient_eq_error_iff :
    m.indexed reading ⟨.lenient, breadcrumbs, support⟩ phase = .error e ↔
      ∃ o, (m.occurrences.find? fun o => o.Untaggable reading support) = some o ∧
        e = o.unknownTag reading := by
  rw [indexed_lenient, Trace.unlessError_eq_error_iff, findSome?_tagError?,
    Option.map_eq_some_iff]
  exact exists_congr fun o => and_congr_right fun _ => eq_comm

/-- A lenient walk fails exactly if it meets an untaggable name. -/
theorem indexed_lenient_fails_iff :
    (∃ e, m.indexed reading ⟨.lenient, breadcrumbs, support⟩ phase = .error e) ↔
      ∃ o ∈ m.occurrences, o.Untaggable reading support := by
  constructor
  · rintro ⟨e, he⟩
    obtain ⟨o, ho, -⟩ := indexed_lenient_eq_error_iff.mp he
    have huntaggable := List.find?_some ho
    exact ⟨o, List.mem_of_find?_eq_some ho, of_decide_eq_true huntaggable⟩
  · rintro ⟨o, ho, huntaggable⟩
    have hfind : (m.occurrences.find? fun o => o.Untaggable reading support).isSome = true :=
      List.find?_isSome.mpr ⟨o, ho, decide_eq_true huntaggable⟩
    obtain ⟨first, hfirst⟩ := Option.isSome_iff_exists.mp hfind
    exact ⟨_, indexed_lenient_eq_error_iff.mpr ⟨first, hfirst, rfl⟩⟩

/-- A strict walk fails at the first site that is to blame. -/
theorem indexed_strict_eq_error_iff :
    m.indexed reading ⟨.strict, breadcrumbs, support⟩ phase = .error e ↔
      ∃ before s after, m.sites = before ++ s :: after ∧ Blamed reading support s e ∧
        ∀ s' ∈ before, ∀ e', ¬ Blamed reading support s' e' := by
  rw [indexed_strict, Trace.unlessError_eq_error_iff, List.findSome?_eq_some_iff]
  simp only [Site.fault?_eq_some_iff, Site.fault?_eq_none_iff]

/-- A lenient walk fails only on account of a name with an unknown tag that it meets, and the error
is that of the first one, wherever it is said to be. Generated names are never looked at. A strict
walk fails at the first site that is to blame, and where that is a name with an unknown tag, the
error is the tag, even if the name has no place either. -/
theorem indexed_error_spec (m : Module I) (reading : Reading I) (support : Support)
    (phase : Phase) :
    (∀ breadcrumbs, (∃ e, m.indexed reading ⟨.lenient, breadcrumbs, support⟩ phase = .error e) ↔
      ∃ o ∈ m.occurrences, o.Untaggable reading support) ∧
    (∀ breadcrumbs e, m.indexed reading ⟨.lenient, breadcrumbs, support⟩ phase = .error e ↔
      ∃ o, (m.occurrences.find? fun o => o.Untaggable reading support) = some o ∧
        e = o.unknownTag reading) ∧
    (∀ (generate : I → I) config,
      (m.map id generate).indexed reading config phase = m.indexed reading config phase) ∧
    (∀ breadcrumbs e, m.indexed reading ⟨.strict, breadcrumbs, support⟩ phase = .error e ↔
      ∃ before s after, m.sites = before ++ s :: after ∧ Blamed reading support s e ∧
        ∀ s' ∈ before, ∀ e', ¬ Blamed reading support s' e') ∧
    (∀ breadcrumbs before o after, m.sites = before ++ .name o :: after →
      (∀ s ∈ before, ∀ e, ¬ Blamed reading support s e) → o.Untaggable reading support →
      m.indexed reading ⟨.strict, breadcrumbs, support⟩ phase = .error (o.unknownTag reading)) ∧
    (∀ breadcrumbs name description,
      m.indexed reading ⟨.strict, breadcrumbs, support⟩ phase =
        .error (.gap (.imprecise name description)) →
      ∃ o ∈ m.occurrences, (Namespace.ofTag? (reading.name o.ident.node).tag).isSome = true ∧
        o.ident.loc = .placeholder description ∧ (reading.name o.ident.node).text = name) := by
  refine ⟨fun _ => indexed_lenient_fails_iff, fun _ _ => indexed_lenient_eq_error_iff,
    fun generate config => m.indexed_map_generated generate reading config phase,
    fun _ _ => indexed_strict_eq_error_iff, ?_, ?_⟩
  · intro breadcrumbs before o after hsites hbefore huntaggable
    exact indexed_strict_eq_error_iff.mpr
      ⟨before, .name o, after, hsites, .unknownTag huntaggable, hbefore⟩
  · intro breadcrumbs name description h
    obtain ⟨before, s, after, hsites, hblamed, -⟩ := indexed_strict_eq_error_iff.mp h
    have hs : s ∈ m.sites := by simp [hsites]
    cases hblamed with
    | imprecise hreached hknown hloc => exact ⟨_, mem_occurrences.mpr hs, hknown, hloc, rfl⟩

end Module

/-- In the signature `f, g :: T`, where `g` has neither a known tag nor a place, both modes report
the tag. -/
theorem signatureModule_fails :
    let m := signatureModule (.placeholder "generated") "label"
    m.indexed .resolved ⟨.lenient, false, .full⟩ .renamed = .error (.unknownTag "label" "g") ∧
      m.indexed .resolved ⟨.strict, false, .full⟩ .renamed = .error (.unknownTag "label" "g") := by
  intro m
  obtain ⟨-, hlenient, -, -, hstrict, -⟩ := Module.indexed_error_spec m .resolved .full .renamed
  -- The declaration and `f`, which come before `g`, are not to blame.
  have hbefore : ∀ s ∈ m.sites.take 2, ∀ e, ¬ Blamed .resolved .full s e := fun s hs =>
    Site.fault?_eq_none_iff.mp (List.findSome?_eq_none_iff.mp rfl s hs)
  refine ⟨(hlenient false _).mpr ⟨_, rfl, rfl⟩, ?_⟩
  exact hstrict false (m.sites.take 2) _ (m.sites.drop 3) rfl hbefore ⟨by decide, rfl⟩

end Xref
