import Xref.Proofs.Index.Lookup
import Xref.Proofs.Traversal.Context
import Xref.Proofs.Traversal.Walk

/-!
# What is passed over hides nothing else

A splice is never indexed: lenient indexing reports it and goes on after it. If a splice takes the
place of an expression, the module keeps all its other sites, each with the nodes that were around
it (`Module.Context.exists_surrounds`). A site gives its entry and its report by itself, so only the
entries and reports of the expression are lost. Entries of the expression that stood at one span
with others give way to these, which is why the two indices may differ at the spans of the
expression's own names, and can differ nowhere else.
-/

namespace Xref

variable {I : Type}

/-- A splice in the place of an expression. -/
def Located.splice (e : Located (Tree I .expr)) : Located (Tree I .expr) :=
  ⟨e.loc, .spliceExpr, .nil⟩

/-- What lenient indexing reports of sites, in their order. -/
def reports (reading : Reading I) (support : Support) (phase : Phase) (sites : List (Site I)) :
    List Diagnostic :=
  (sites.filterMap (Site.gap? reading support)).map (Gap.diagnostic phase)

theorem reports_append (reading : Reading I) (support : Support) (phase : Phase)
    (a b : List (Site I)) :
    reports reading support phase (a ++ b) =
      reports reading support phase a ++ reports reading support phase b := by
  unfold reports
  rw [List.filterMap_append, List.map_append]

/-- A splice is reported where it is reached, whatever is supported. -/
theorem reports_splice (e : Located (Tree I .expr)) (path : List Node) (reading : Reading I)
    (support : Support) (phase : Phase) :
    reports reading support phase (e.splice.sitesIn path) =
      if Reached support path then [(Gap.unsupported .spliceExpr e.loc).diagnostic phase]
      else [] := by
  have hsupp : support.supports .spliceExpr = false := Support.supports_eq_false rfl
  have hgap : (Site.node path ⟨.spliceExpr, e.loc⟩ : Site I).gap? reading support =
      if Reached support path then some (.unsupported .spliceExpr e.loc) else none := by
    show (if Reached support path ∧ support.supports .spliceExpr = false then _ else none) = _
    simp only [hsupp, and_true]
  show List.map _ (List.filterMap _ [Site.node path ⟨.spliceExpr, e.loc⟩]) = _
  split at hgap
  · next hreached => rw [List.filterMap_cons_some hgap, if_pos hreached]; rfl
  · next hreached => rw [List.filterMap_cons_none hgap, if_neg hreached]; rfl

/-- The entries of sites are at the spans of their names. -/
theorem exists_name_of_mem_pairs {reading : Reading I} {config : Config} {sites : List (Site I)}
    {entry : Entry} (h : entry ∈ sites.filterMap (Site.pair? reading config)) :
    ∃ o, .name o ∈ sites ∧ o.ident.loc = .known entry.1 := by
  obtain ⟨site, hsite, hpair⟩ := List.mem_filterMap.mp h
  obtain ⟨o, e, rfl, -, he, rfl⟩ := Site.pair?_eq_some_iff.mp hpair
  exact ⟨o, hsite, (Occurrence.pair?_eq_some_iff.mp he).1⟩

/-- Entries at other spans do not matter for what is found at a span. -/
theorem Index.get?_ofPairs_middle {before middle after : List Entry} {s : Span}
    (h : ∀ e ∈ middle, e.1 ≠ s) :
    (ofPairs (before ++ after)).get? s = (ofPairs (before ++ middle ++ after)).get? s := by
  have hmiddle : (middle.reverse.find? fun e => e.1 = s) = none := by
    rw [List.find?_eq_none]
    exact fun e he heq => h e (List.mem_reverse.mp he) (of_decide_eq_true heq)
  rw [get?_ofPairs, get?_ofPairs]
  simp only [List.reverse_append, List.find?_append, hmiddle, Option.none_or]

/-- The results `r` of a module and `r'` of the module with a splice for the expression `e`, which
stands inside the nodes of `path` and between the sites `before` and `after`, differ by what is in
the expression. -/
structure Indexed.DifferAt (reading : Reading I) (support : Support) (phase : Phase)
    (e : Located (Tree I .expr)) (before : List (Site I)) (path : List Node)
    (after : List (Site I)) (r r' : Indexed) : Prop where
  /-- At a span that no name in the expression has, both have the same record or none. -/
  index : ∀ s, (∀ o, .name o ∈ e.sitesIn path → o.ident.loc ≠ .known s) →
    r'.index.get? s = r.index.get? s
  /-- The expression is reported after the sites before it, and before the sites after it. -/
  whole : r.diagnostics = reports reading support phase before ++
    reports reading support phase (e.sitesIn path) ++ reports reading support phase after
  /-- The reports of the other sites stay as they are. -/
  spliced : r'.diagnostics = reports reading support phase before ++
    (if Reached support path then [(Gap.unsupported .spliceExpr e.loc).diagnostic phase] else []) ++
    reports reading support phase after

/-- Lenient indexing that passes over an expression loses what is inside it and nothing else. Every
expression among the sites of a module is at the open place of a context of the module. And if a
module is indexed, it is still indexed with a splice for an expression at an open place, with a
result that differs by what is in the expression. -/
theorem Module.indexed_splice_confined (m : Module I) (reading : Reading I) (breadcrumbs : Bool)
    (support : Support) (phase : Phase) (r : Indexed)
    (h : m.indexed reading ⟨.lenient, breadcrumbs, support⟩ phase = .ok r) :
    (∀ before path (form : Form .expr) loc rest,
      m.sites = before ++ .node path ⟨form, loc⟩ :: rest →
      ∃ (context : Module.Context I) (parts : Parts I form.slots) (after : List (Site I)),
        m = context.plug ⟨loc, form, parts⟩ ∧
          Surrounds before path after fun e => (context.plug e).sites) ∧
    (∀ (context : Module.Context I) e, m = context.plug e →
      ∃ before path after r', Surrounds before path after (fun e => (context.plug e).sites) ∧
        (context.plug e.splice).indexed reading ⟨.lenient, breadcrumbs, support⟩ phase = .ok r' ∧
        Indexed.DifferAt reading support phase e before path after r r') := by
  refine ⟨fun _ _ _ _ _ => Module.exists_context, ?_⟩
  rintro context e rfl
  obtain ⟨before, path, after, hsites⟩ := context.exists_surrounds
  have hwhole : (context.plug e).sites = before ++ e.sitesIn path ++ after := hsites e
  have hspliced : (context.plug e.splice).sites = before ++ e.splice.sitesIn path ++ after :=
    hsites e.splice
  rw [Module.indexed_lenient, Trace.unlessError_eq_ok_iff] at h
  obtain ⟨htags, rfl⟩ := h
  -- A splice holds no name, so it has no unknown tag and no entry.
  have htags' :
      (context.plug e.splice).sites.findSome? (Site.tagError? reading support) = none := by
    rw [hwhole, List.findSome?_append, List.findSome?_append, Option.or_eq_none_iff,
      Option.or_eq_none_iff] at htags
    rw [hspliced, List.findSome?_append, List.findSome?_append, Option.or_eq_none_iff,
      Option.or_eq_none_iff]
    exact ⟨⟨htags.1.1, rfl⟩, htags.2⟩
  have hpairs : (e.splice.sitesIn path).filterMap
      (Site.pair? reading ⟨.lenient, breadcrumbs, support⟩) = [] := rfl
  have hindexed := (context.plug e.splice).indexed_lenient reading breadcrumbs support phase
  rw [htags'] at hindexed
  refine ⟨before, path, after, _, hsites, hindexed, fun s hs => ?_, ?_, ?_⟩
  · show (Index.ofPairs _).get? s = (Index.ofPairs _).get? s
    rw [hwhole, hspliced, List.filterMap_append, List.filterMap_append, hpairs, List.append_nil,
      List.filterMap_append, List.filterMap_append]
    refine Index.get?_ofPairs_middle fun entry hentry hspan => ?_
    obtain ⟨o, ho, hloc⟩ := exists_name_of_mem_pairs hentry
    exact hs o ho (hspan ▸ hloc)
  · show reports reading support phase (context.plug e).sites = _
    rw [hwhole, reports_append, reports_append]
  · show reports reading support phase (context.plug e.splice).sites = _
    rw [hspliced, reports_append, reports_append, reports_splice]

/-- A generated binding of `□ + y`, where the left operand is open and `y` has no place. -/
def operatorContext : Module.Context Name where
  name := none
  before := []
  loc := .known (.onLine "T.hs" 1 1 5)
  form := .valueDecl .varBind
  parts :=
    .afterGenerated (.builtIn "v" "var")
      (.inLocated (.known (.onLine "T.hs" 1 1 5)) .opApp
        (.hole
          (.located (.known (.onLine "T.hs" 1 3 3)) .varExpr
              (.name ⟨.known (.onLine "T.hs" 1 3 3), .builtIn "+" "var"⟩ .nil)
            (.located (.known (.onLine "T.hs" 1 5 5)) .varExpr
              (.name ⟨.placeholder "generated", .builtIn "y" "var"⟩ .nil) .nil)))
        .nil)
  after := []

/-- With a splice for the operand `x`, the record of the operator stays, and so does the report of
`y`, after that of the splice. -/
theorem operatorContext_spliced :
    let s := Span.onLine "T.hs" 1 1 1
    let e : Located (Tree Name .expr) :=
      ⟨.known s, .varExpr, .name ⟨.known s, .builtIn "x" "var"⟩ .nil⟩
    ∃ r r', (operatorContext.plug e).indexed .resolved ⟨.lenient, true, .full⟩ .renamed = .ok r ∧
      (operatorContext.plug e.splice).indexed .resolved ⟨.lenient, true, .full⟩ .renamed = .ok r' ∧
      (r.index.size = 2 ∧ r'.index.size = 1) ∧
      r'.index.get? (.onLine "T.hs" 1 3 3) = r.index.get? (.onLine "T.hs" 1 3 3) ∧
      r.diagnostics = [Gap.diagnostic .renamed (.imprecise "y" "generated")] ∧
      r'.diagnostics = [Gap.diagnostic .renamed (.unsupported .spliceExpr (.known s)),
        Gap.diagnostic .renamed (.imprecise "y" "generated")] := by
  intro s e
  obtain ⟨-, hplaces⟩ :=
    Module.indexed_splice_confined (operatorContext.plug e) .resolved true .full .renamed _ rfl
  obtain ⟨before, path, after, r', -, hr', hdiffer⟩ := hplaces operatorContext e rfl
  have hne : Location.known s ≠ .known (.onLine "T.hs" 1 3 3) := by decide
  have hsame := hdiffer.index (.onLine "T.hs" 1 3 3) fun o ho => by
    simp only [e, Located.sitesIn, Parts.sites, List.mem_cons, reduceCtorEq, false_or,
      Site.name.injEq, List.not_mem_nil, or_false] at ho
    rw [ho]
    exact hne
  cases hr'
  exact ⟨_, _, rfl, rfl, by decide +kernel, hsame, rfl, rfl⟩

end Xref
