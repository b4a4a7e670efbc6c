import Xref.Proofs.Query.AtPosition
import Xref.Query.Definition

/-!
# The entries at a position, from the inside outwards

The entries at a position are put in order by their extents, and entries of one extent by their
spans (`Entry.Precedes`). Sorting is stable and starts from ascending spans, so it needs to look at
extents only (`Index.nestedAt_pairwise`). The innermost entry is found without sorting, as the first
one of least extent, and is the first one of the sorted entries (`Index.head?_nestedAt`).

An entry inside another one has no greater extent, so it comes first, unless the two are flush. So
the entry that counts as innermost encloses no other one at the position, except entries that are
flush with it (`Index.flush_of_innermostAt`). Flush spans have one extent, and of these the one that
starts first comes first, which is the outer one: the inner one is never found
(`Index.innermostAt_ne_of_flush`).
-/

namespace Xref

namespace Entry

/-! ## Sorting by extent -/

/-- The entry `a` counts as further inside than `b`: its extent is smaller, or the extents are equal
and its span comes first. -/
def Precedes (a b : Entry) : Prop :=
  a.1.extent < b.1.extent ∨ (a.1.extent = b.1.extent ∧ a.1 < b.1)

/-- The extent of `a` is at most that of `b`. -/
def extentLe (a b : Entry) : Bool :=
  decide (a.1.extent ≤ b.1.extent)

theorem extentLe_iff {a b : Entry} : extentLe a b = true ↔ a.1.extent ≤ b.1.extent :=
  decide_eq_true_iff

theorem extentLe_trans (a b c : Entry) (hab : extentLe a b = true) (hbc : extentLe b c = true) :
    extentLe a c = true := by
  rw [extentLe_iff] at *
  exact Position.le_trans hab hbc

theorem extentLe_total (a b : Entry) : (extentLe a b || extentLe b a) = true := by
  rw [Bool.or_eq_true, extentLe_iff, extentLe_iff]
  exact Position.le_total _ _

theorem precedes_of_extent_le {a b : Entry} (hle : a.1.extent ≤ b.1.extent) (hlt : a.1 < b.1) :
    a.Precedes b :=
  (Position.lt_or_eq_of_le hle).imp_right fun heq => ⟨heq, hlt⟩

/-- Ascending entries that are sorted by extent stay ascending among those of one extent. -/
theorem pairwise_precedes_mergeSort {entries : List Entry}
    (h : entries.Pairwise fun a b => a.1 < b.1) :
    (entries.mergeSort extentLe).Pairwise Precedes := by
  induction entries with
  | nil => simp
  | cons e rest ih =>
    obtain ⟨hfirst, hrest⟩ := List.pairwise_cons.mp h
    -- The first entry goes behind the entries of smaller extent, and before all others.
    obtain ⟨smaller, others, hsort, hparts, hsmaller⟩ :=
      List.mergeSort_cons extentLe_trans extentLe_total e rest
    have hle := List.pairwise_mergeSort extentLe_trans extentLe_total (e :: rest)
    have hih := ih hrest
    rw [hsort] at hle ⊢
    rw [hparts] at hih
    obtain ⟨hpre, hpost, hcross⟩ := List.pairwise_append.mp hih
    refine List.pairwise_append.mpr ⟨hpre, List.pairwise_cons.mpr ⟨fun x hx => ?_, hpost⟩, ?_⟩
    · have hmem : x ∈ rest := by
        rw [← List.mem_mergeSort, hparts]
        exact List.mem_append_right smaller hx
      have hlater := (List.pairwise_cons.mp (List.pairwise_append.mp hle).2.1).1 x hx
      exact precedes_of_extent_le (extentLe_iff.mp hlater) (hfirst x hmem)
    · intro x hx y hy
      rcases List.mem_cons.mp hy with rfl | hy
      · have hnot : ¬ y.1.extent ≤ x.1.extent := by
          rw [← extentLe_iff]
          simpa using hsmaller x hx
        exact .inl (Position.not_le.mp hnot)
      · exact hcross x hx y hy

/-- The first entry after sorting is the first one of least extent. -/
theorem head?_mergeSort (entries : List Entry) :
    (entries.mergeSort extentLe).head? = entries.minOn? fun e => e.1.extent := by
  induction entries with
  | nil => simp
  | cons e rest ih =>
    obtain ⟨smaller, others, hsort, hparts, hsmaller⟩ :=
      List.mergeSort_cons extentLe_trans extentLe_total e rest
    have hle := List.pairwise_mergeSort extentLe_trans extentLe_total (e :: rest)
    rw [hsort] at hle ⊢
    rw [List.minOn?_cons, ← ih, hparts]
    cases smaller with
    | nil =>
      cases others with
      | nil => rfl
      | cons x others =>
        have hx : e.1.extent ≤ x.1.extent :=
          extentLe_iff.mp ((List.pairwise_cons.mp hle).1 x List.mem_cons_self)
        simp [minOn, hx]
    | cons x smaller =>
      have hx : ¬ e.1.extent ≤ x.1.extent := by
        rw [← extentLe_iff]
        simpa using hsmaller x List.mem_cons_self
      simp [minOn, hx]

end Entry

namespace Index

theorem nestedAt_perm (index : Index) (p : Position) :
    (index.nestedAt p).Perm (index.entriesAt p) :=
  List.mergeSort_perm _ _

theorem nestedAt_pairwise (index : Index) (p : Position) :
    (index.nestedAt p).Pairwise Entry.Precedes :=
  Entry.pairwise_precedes_mergeSort (index.sorted_entriesAt p)

theorem head?_nestedAt (index : Index) (p : Position) :
    (index.nestedAt p).head? = index.innermostAt p :=
  Entry.head?_mergeSort _

/-- The innermost entry precedes all others at the position. -/
theorem precedes_of_innermostAt {index : Index} {p : Position} {a b : Entry}
    (hb : index.innermostAt p = some b) (ha : a ∈ index.entriesAt p) (hne : a ≠ b) :
    b.Precedes a := by
  rw [← head?_nestedAt, List.head?_eq_some_iff] at hb
  obtain ⟨others, hothers⟩ := hb
  have hsorted := index.nestedAt_pairwise p
  have hmem := (index.nestedAt_perm p).mem_iff.mpr ha
  rw [hothers] at hsorted hmem
  exact (List.pairwise_cons.mp hsorted).1 a ((List.mem_cons.mp hmem).resolve_left hne)

/-! ## Nested entries -/

/-- The entry `a` contains the position, and lies inside the span `outer` without being all of
it. -/
structure EnclosedAt (index : Index) (p : Position) (a : Entry) (outer : Span) : Prop where
  mem : a ∈ index.entries
  contains : a.1.contains p = true
  within : a.1.Within outer
  ne : a.1 ≠ outer

theorem EnclosedAt.mem_entriesAt {index : Index} {p : Position} {a : Entry} {outer : Span}
    (h : index.EnclosedAt p a outer) : a ∈ index.entriesAt p :=
  mem_entriesAt_iff.mpr ⟨h.mem, h.contains⟩

theorem EnclosedAt.outer_contains {index : Index} {p : Position} {a : Entry} {outer : Span}
    (h : index.EnclosedAt p a outer) : outer.contains p = true := by
  obtain ⟨hstart, hstop⟩ := Span.contains_iff.mp h.contains
  exact Span.contains_iff.mpr
    ⟨Position.le_trans h.within.start hstart, Position.le_trans hstop h.within.stop⟩

/-- What the innermost entry encloses at the position is flush with it. -/
theorem flush_of_innermostAt {index : Index} {p : Position} {a b : Entry}
    (hb : index.innermostAt p = some b) (h : index.EnclosedAt p a b.1) : a.1.Flush b.1 := by
  have hwf := Span.wellFormed_of_contains h.contains
  have hle := Span.extent_le_of_within hwf h.within
  have hne : a ≠ b := fun heq => h.ne (congrArg Prod.fst heq)
  have heq : a.1.extent = b.1.extent := by
    rcases precedes_of_innermostAt hb h.mem_entriesAt hne with hlt | ⟨heq, -⟩
    · exact absurd hlt (Position.not_lt.mpr hle)
    · exact heq.symm
  exact ((Span.extent_eq_iff_of_within hwf h.within).mp heq).resolve_left h.ne

/-- An entry is not innermost if it is flush with one around it. -/
theorem innermostAt_ne_of_flush {index : Index} {p : Position} {a b : Entry}
    (hb : b ∈ index.entries) (h : index.EnclosedAt p a b.1) (hflush : a.1.Flush b.1) :
    index.innermostAt p ≠ some a := by
  intro ha
  have hwf := Span.wellFormed_of_contains h.contains
  have hextent := (Span.extent_eq_iff_of_within hwf h.within).mpr (.inr hflush)
  have hstart : b.1.start < a.1.start := by
    refine (Position.lt_or_eq_of_le h.within.start).resolve_right fun heq => ?_
    exact h.ne (Span.eq_iff.mpr ⟨h.within.file, heq.symm, hflush.stop⟩)
  have hlt : b.1 < a.1 := Span.lt_def.mpr (.inr ⟨h.within.file.symm, .inl hstart⟩)
  have hmem : b ∈ index.entriesAt p := mem_entriesAt_iff.mpr ⟨hb, h.outer_contains⟩
  have hne : b ≠ a := fun heq => h.ne (congrArg Prod.fst heq.symm)
  rcases precedes_of_innermostAt ha hmem hne with hsmaller | ⟨-, hfirst⟩
  · rw [hextent] at hsmaller
    exact Position.lt_irrefl _ hsmaller
  · exact Span.lt_asymm hlt hfirst

/-- The innermost entry at a position, and so the one that is hovered over, encloses no other entry
there unless the two are flush: both go over several lines, start in one line and end together. Of
two flush entries the one inside is never the innermost. -/
theorem innermostAt_encloses_only_flush (index : Index) (p : Position) :
    (∀ b, index.innermostAt p = some b → ∀ a, index.EnclosedAt p a b.1 → a.1.Flush b.1) ∧
    (∀ shown, index.hover p = some shown →
      ∀ a, index.EnclosedAt p a shown.span → a.1.Flush shown.span) ∧
    (∀ a, ∀ b ∈ index.entries, index.EnclosedAt p a b.1 → a.1.Flush b.1 →
      index.innermostAt p ≠ some a) := by
  refine ⟨fun b hb a ha => flush_of_innermostAt hb ha, fun shown hshown a ha => ?_,
    fun a b hb ha hflush => innermostAt_ne_of_flush hb ha hflush⟩
  obtain ⟨b, hb, rfl⟩ := Option.map_eq_some_iff.mp hshown
  exact flush_of_innermostAt hb ha

/-! ## Flush entries -/

/-- A reference over two lines, from the first column. -/
def outerEntry : Entry :=
  (⟨"Main.hs", ⟨1, 1⟩, ⟨2, 5⟩⟩,
    ⟨"outer", none, none, .value, none, .placeholder "none", .reference⟩)

/-- A reference that starts two columns later and ends at the same position. -/
def innerEntry : Entry :=
  (⟨"Main.hs", ⟨1, 3⟩, ⟨2, 5⟩⟩,
    ⟨"inner", none, none, .value, none, .placeholder "none", .reference⟩)

/-- An index of two flush entries. -/
def flushIndex : Index :=
  ofPairs [outerEntry, innerEntry]

theorem innerEntry_enclosedAt : flushIndex.EnclosedAt ⟨2, 1⟩ innerEntry outerEntry.1 :=
  ⟨by decide +kernel, by decide, ⟨rfl, by decide, by decide⟩, by decide⟩

/-- The outer entry is found at a position of both, what it encloses there is flush with it, and the
inner entry is not found. -/
theorem innerEntry_flush :
    flushIndex.innermostAt ⟨2, 1⟩ = some outerEntry ∧
      flushIndex.EnclosedAt ⟨2, 1⟩ innerEntry outerEntry.1 ∧ innerEntry.1.Flush outerEntry.1 ∧
      flushIndex.innermostAt ⟨2, 1⟩ ≠ some innerEntry := by
  have houter : flushIndex.innermostAt ⟨2, 1⟩ = some outerEntry := by decide +kernel
  obtain ⟨hflush, -, hnever⟩ := innermostAt_encloses_only_flush flushIndex ⟨2, 1⟩
  have hinner := hflush outerEntry houter innerEntry innerEntry_enclosedAt
  exact ⟨houter, innerEntry_enclosedAt, hinner,
    hnever innerEntry outerEntry (by decide +kernel) innerEntry_enclosedAt hinner⟩

/-- The innermost entry can enclose another one: all spans here start before they end, the position
lies in two entries, one strictly inside the other, and the outer one is found and hovered over. -/
theorem innermostAt_flush_outer :
    (∀ e ∈ flushIndex.entries, e.1.WellFormed) ∧
      flushIndex.innermostAt ⟨2, 1⟩ = some outerEntry ∧
      (flushIndex.hover ⟨2, 1⟩).map Hover.span = some outerEntry.1 ∧
      flushIndex.EnclosedAt ⟨2, 1⟩ innerEntry outerEntry.1 :=
  ⟨by decide +kernel, by decide +kernel, by decide +kernel, innerEntry_enclosedAt⟩

end Index

end Xref
