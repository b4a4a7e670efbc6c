import Xref.Proofs.Delimiter
import Xref.Proofs.Query.EachEntry
import Xref.Query.DocLink

/-!
# Links to documentation

The path of a name in the documentation tells which name it is. It has four parts that can be of any
length, and the last of them, the name itself, can be any text: an operator can be made of the very
characters that stand between the parts. So the path is read from its beginning. The package ends at
the first slash, since there is none in its name. The page ends at the first dot after it, since the
dots of the module are written as hyphens, and they come back from the hyphens, since the module has
none of its own (`map_pageChar_inj`). What follows is as long as it is for any other name, up to the
name (`Record.docPath?_eq_iff`).

An entry has a link if its name has a module and a package, and no other entry has one
(`Index.forall₂_docLinks`).
-/

namespace Xref

/-! ## Parts of a path -/

/-- A text up to a character that does not occur in it is known, and so is what follows. -/
theorem append_cons_inj_of_notMem {xs ys us vs : List Char} {a : Char} (hxs : a ∉ xs)
    (hys : a ∉ ys) (h : xs ++ a :: us = ys ++ a :: vs) : xs = ys ∧ us = vs := by
  have hkind : ∀ {zs : List Char}, a ∉ zs → ∀ c ∈ zs, decide (c ≠ a) = true :=
    fun hzs c hc => decide_eq_true fun hca => hzs (hca ▸ hc)
  obtain ⟨hfirst, -, hrest⟩ := append_cons_inj (hkind hxs) (hkind hys) (by simp) (by simp) h
  exact ⟨hfirst, hrest⟩

/-- How a character of a module is written in the name of its page. -/
def pageChar (c : Char) : Char :=
  if c = '.' then '-' else c

/-- No page has a dot in its name. -/
theorem dot_notMem_map_pageChar (cs : List Char) : '.' ∉ cs.map pageChar := by
  intro h
  obtain ⟨c, -, hc⟩ := List.mem_map.mp h
  unfold pageChar at hc
  split at hc
  · exact absurd hc (by decide)
  · next hdot => exact hdot hc

/-- A module without hyphens is known from its page. -/
theorem map_pageChar_inj {xs ys : List Char} (hxs : '-' ∉ xs) (hys : '-' ∉ ys)
    (h : xs.map pageChar = ys.map pageChar) : xs = ys := by
  -- Every hyphen of the page was a dot.
  have hback : ∀ {cs : List Char}, '-' ∉ cs →
      (cs.map pageChar).map (fun c => if c = '-' then '.' else c) = cs := by
    intro cs hcs
    rw [List.map_map]
    refine (List.map_congr_left fun c hc => ?_).trans (List.map_id cs)
    have hne : c ≠ '-' := fun heq => hcs (heq ▸ hc)
    by_cases hdot : c = '.'
    · simp [pageChar, hdot]
    · simp [pageChar, hdot, hne]
  rw [← hback hxs, h, hback hys]

theorem Namespace.anchorMark_eq_iff {a b : Namespace} :
    a.anchorMark = b.anchorMark ↔ a.isTermLevel = b.isTermLevel := by
  cases a <;> cases b <;> decide

/-! ## The path of a name -/

namespace Record

/-- The name belongs to the module `m` of the package `p`. -/
structure OwnedBy (r : Record) (p m : String) : Prop where
  moduleName : r.moduleName = some m
  packageName : r.packageName = some p

/-- The name belongs to the module `m` of the package `p`, and these have names as they are given to
packages and modules: the package has no slash in it, and the module no hyphen. -/
structure PlainlyOwnedBy (r : Record) (p m : String) : Prop extends r.OwnedBy p m where
  slash : '/' ∉ p.toList
  hyphen : '-' ∉ m.toList

/-- The path of a name, part by part. -/
theorem docPath?_of_ownedBy {r : Record} {p m : String} (h : r.OwnedBy p m) :
    r.docPath?.map String.toList = some (p.toList ++ '/' :: (m.toList.map pageChar ++
      '.' :: ("html#".toList ++ r.space.anchorMark :: ':' :: r.name.toList))) := by
  unfold docPath?
  rw [h.moduleName, h.packageName]
  simp [String.toList_append, String.toList_map, pageChar]

/-- Names of plain owners are known from their paths. Of the name space only the mark is known. -/
theorem docPath?_eq_iff {r s : Record} {p m q n : String} (hr : r.PlainlyOwnedBy p m)
    (hs : s.PlainlyOwnedBy q n) :
    r.docPath? = s.docPath? ↔
      p = q ∧ m = n ∧ r.space.anchorMark = s.space.anchorMark ∧ r.name = s.name := by
  have hpath := docPath?_of_ownedBy hr.toOwnedBy
  have hpath' := docPath?_of_ownedBy hs.toOwnedBy
  rw [← (Option.map_injective fun _ _ => String.toList_inj.mp).eq_iff, hpath, hpath',
    Option.some.injEq]
  constructor
  · intro h
    obtain ⟨hpackage, hrest⟩ := append_cons_inj_of_notMem hr.slash hs.slash h
    obtain ⟨hpage, hrest⟩ := append_cons_inj_of_notMem (dot_notMem_map_pageChar m.toList)
      (dot_notMem_map_pageChar n.toList) hrest
    have hmodule := map_pageChar_inj hr.hyphen hs.hyphen hpage
    obtain ⟨hmark, hrest⟩ := List.cons.inj (List.append_cancel_left hrest)
    have hname := (List.cons.inj hrest).2
    exact ⟨String.toList_inj.mp hpackage, String.toList_inj.mp hmodule, hmark,
      String.toList_inj.mp hname⟩
  · rintro ⟨rfl, rfl, hmark, hname⟩
    rw [hmark, hname]

/-- A name has a path if it has a module and a package. -/
theorem exists_docPath?_of_ownedBy {r : Record} {p m : String} (h : r.OwnedBy p m) :
    ∃ path, r.docPath? = some path := by
  obtain ⟨path, hpath, -⟩ := Option.map_eq_some_iff.mp (docPath?_of_ownedBy h)
  exact ⟨path, hpath⟩

end Record

namespace Entry

/-! ## The link of an entry -/

/-- The name of the entry has a module and a package. -/
def HasOwner (e : Entry) : Prop :=
  e.2.moduleName ≠ none ∧ e.2.packageName ≠ none

instance : DecidablePred HasOwner :=
  fun _ => inferInstanceAs (Decidable (_ ∧ _))

/-- The link leads from the span of the entry to its name in the documentation. -/
structure LinkedBy (e : Entry) (link : DocLink) : Prop where
  span : link.span = e.1
  target : e.2.docPath? = some link.target
  tooltip : link.tooltip = "Documentation for " ++ e.2.qualifiedName

theorem exists_linkedBy {e : Entry} (h : e.HasOwner) :
    ∃ link, e.docLink? = some link ∧ e.LinkedBy link := by
  obtain ⟨m, hm⟩ := Option.ne_none_iff_exists'.mp h.1
  obtain ⟨p, hp⟩ := Option.ne_none_iff_exists'.mp h.2
  obtain ⟨path, hpath⟩ := Record.exists_docPath?_of_ownedBy ⟨hm, hp⟩
  have hlink : e.docLink? = some ⟨e.1, path, "Documentation for " ++ e.2.qualifiedName⟩ := by
    rw [docLink?, hpath, Option.map_some]
  exact ⟨_, hlink, rfl, hpath, rfl⟩

theorem docLink?_eq_none {e : Entry} (h : ¬ e.HasOwner) : e.docLink? = none := by
  have hpath : e.2.docPath? = none := by
    unfold Record.docPath?
    cases hm : e.2.moduleName with
    | none => rfl
    | some m =>
      have hp : e.2.packageName = none := by
        by_contra hp
        exact h ⟨by simp [hm], hp⟩
      rw [hp]
      rfl
  rw [docLink?, hpath, Option.map_none]

theorem span_of_docLink? {e : Entry} {link : DocLink} (h : e.docLink? = some link) :
    link.span = e.1 := by
  obtain ⟨target, -, rfl⟩ := Option.map_eq_some_iff.mp h
  rfl

end Entry

namespace Index

/-! ## The links of an index -/

/-- Every entry with a module and a package has its link, in the order of the entries, and there are
no others. -/
theorem forall₂_docLinks (index : Index) :
    List.Forall₂ Entry.LinkedBy (index.entries.filter Entry.HasOwner) index.docLinks :=
  index.forall₂_filterMap (fun _ _ => Entry.exists_linkedBy) fun _ _ => Entry.docLink?_eq_none

theorem docLinks_pairwise (index : Index) :
    index.docLinks.Pairwise fun a b => a.span < b.span := by
  refine List.pairwise_filterMap.mpr (index.sorted.imp ?_)
  intro a b hlt x hx y hy
  rw [Entry.span_of_docLink? hx, Entry.span_of_docLink? hy]
  exact hlt

/-- Links tell where they lead to. If the package of a name has no slash and its module no hyphen,
its path in the documentation tells the package, the module, the name, which can be any text, and
whether it is the name of a term or of a type. The links of an index are those of the entries with a
module and a package, one for each, in the order of their spans. -/
theorem docLinks_identify :
    (∀ (r s : Record) (p m q n : String), r.PlainlyOwnedBy p m → s.PlainlyOwnedBy q n →
      (r.docPath? = s.docPath? ↔
        p = q ∧ m = n ∧ r.space.anchorMark = s.space.anchorMark ∧
          r.space.isTermLevel = s.space.isTermLevel ∧ r.name = s.name)) ∧
    (∀ index : Index,
      List.Forall₂ Entry.LinkedBy (index.entries.filter Entry.HasOwner) index.docLinks ∧
      index.docLinks.Pairwise fun a b => a.span < b.span) := by
  refine ⟨fun r s p m q n hr hs => ?_, fun index =>
    ⟨index.forall₂_docLinks, index.docLinks_pairwise⟩⟩
  rw [Record.docPath?_eq_iff hr hs, ← Namespace.anchorMark_eq_iff, and_self_left]

/-- An operator that is made of the characters between the parts of a path. A constructor of that
name has the same path, and a type does not. Of three entries the operator and the type have links,
and the name without a package has none. -/
theorem docLinks_of_misleading_operator :
    let r : Record :=
      ⟨"/-.html#t:", some "Data.Op", some "op-1", .value, none, .placeholder "none", .reference⟩
    let con : Record := { r with space := .dataConstructor }
    let type : Record := { r with space := .typeOrClass }
    let s : Coordinate → Span := fun line => .onLine "T.hs" line 1 9
    let index := ofPairs [(s 3, type), (s 2, { r with packageName := none }), (s 1, r)]
    r.PlainlyOwnedBy "op-1" "Data.Op" ∧ r.docPath? = some "op-1/Data-Op.html#v:/-.html#t:" ∧
      r.docPath? = con.docPath? ∧ r.docPath? ≠ type.docPath? ∧
      List.Forall₂ Entry.LinkedBy [(s 1, r), (s 3, type)] index.docLinks := by
  intro r con type s index
  obtain ⟨hpaths, hlinks⟩ := docLinks_identify
  have hplain : '/' ∉ "op-1".toList ∧ '-' ∉ "Data.Op".toList := by decide
  have hr : r.PlainlyOwnedBy "op-1" "Data.Op" := ⟨⟨rfl, rfl⟩, hplain.1, hplain.2⟩
  have hcon := hpaths r con _ _ _ _ hr ⟨⟨rfl, rfl⟩, hplain.1, hplain.2⟩
  have htype := hpaths r type _ _ _ _ hr ⟨⟨rfl, rfl⟩, hplain.1, hplain.2⟩
  have hkept : index.entries.filter Entry.HasOwner = [(s 1, r), (s 3, type)] := by decide +kernel
  refine ⟨hr, by decide +kernel, hcon.mpr (by decide), mt htype.mp (by decide), ?_⟩
  rw [← hkept]
  exact (hlinks index).1

end Index

end Xref
