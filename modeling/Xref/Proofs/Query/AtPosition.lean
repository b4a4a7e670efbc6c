import Xref.Proofs.Index.History
import Xref.Proofs.Source.Extent
import Xref.Query.Hover

/-!
# Looking up a position

What an index has at a position are the entries between whose ends it lies, by line and then by
column, the ends included (`Index.mem_entriesAt_iff`). A span whose end comes before its start has
no such position. The entries are listed in the order of the index, so they are ascending.

Looking up a position keeps some spans of an index and forgets the others (`Index.restrict`). Which
spans are kept does not depend on the index, and so it makes no difference whether two indices are
restricted before or after they are united (`Index.restrict_combine`).
-/

namespace Xref

/-- What positions are ordered by: the line, then the column. -/
def Position.key (p : Position) : Coordinate ×ₗ Coordinate :=
  toLex (p.line, p.col)

theorem Position.key_le_iff {a b : Position} : a.key ≤ b.key ↔ a ≤ b :=
  Prod.Lex.toLex_le_toLex

theorem Position.key_lt_iff {a b : Position} : a.key < b.key ↔ a < b :=
  Prod.Lex.toLex_lt_toLex

theorem Span.contains_iff {s : Span} {p : Position} :
    s.contains p = true ↔ s.start ≤ p ∧ p ≤ s.stop := by
  rw [contains, Bool.and_eq_true, decide_eq_true_iff, decide_eq_true_iff]

/-- Only a span that starts before it ends contains a position. -/
theorem Span.wellFormed_of_contains {s : Span} {p : Position} (h : s.contains p = true) :
    s.WellFormed :=
  Position.le_trans (contains_iff.mp h).1 (contains_iff.mp h).2

namespace Index

/-! ## The entries at a position -/

theorem mem_entriesAt_iff {index : Index} {p : Position} {e : Entry} :
    e ∈ index.entriesAt p ↔ e ∈ index.entries ∧ e.1.contains p = true := by
  rw [entriesAt, List.mem_filter]

theorem sorted_entriesAt (index : Index) (p : Position) :
    (index.entriesAt p).Pairwise fun a b => a.1 < b.1 :=
  index.sorted.filter _

/-- There is an innermost entry unless there is none at all. -/
theorem innermostAt_eq_none_iff {index : Index} {p : Position} :
    index.innermostAt p = none ↔ index.entriesAt p = [] := by
  rw [← Option.not_isSome_iff_eq_none, innermostAt, List.isSome_minOn?_iff, not_not]

theorem hover_eq_none_iff {index : Index} {p : Position} :
    index.hover p = none ↔ index.entriesAt p = [] := by
  rw [hover, Option.map_eq_none_iff, innermostAt_eq_none_iff]

/-! ## Restriction -/

/-- The entries whose spans are kept. -/
def restrict (index : Index) (keep : Span → Bool) : Index :=
  ⟨index.entries.filter fun e => keep e.1, index.sorted.filter _⟩

theorem get?_restrict (index : Index) (keep : Span → Bool) (s : Span) :
    (index.restrict keep).get? s = if keep s then index.get? s else none := by
  refine Option.ext fun r => ?_
  have hmem : (s, r) ∈ (index.restrict keep).entries ↔ (s, r) ∈ index.entries ∧ keep s = true :=
    List.mem_filter
  rw [mem_entries_iff, mem_entries_iff] at hmem
  rw [hmem, Option.ite_none_right_eq_some, and_comm]

/-- A union is restricted by restricting both indices. -/
theorem restrict_combine (a b : Index) (keep : Span → Bool) :
    (a.combine b).restrict keep = (a.restrict keep).combine (b.restrict keep) := by
  refine ext_get? fun s => ?_
  rw [get?_restrict, get?_combine, get?_combine, get?_restrict, get?_restrict]
  split
  · rfl
  · rfl

/-- The entries at a position, as an index. -/
theorem ofPairs_entriesAt (index : Index) (p : Position) :
    ofPairs (index.entriesAt p) = index.restrict fun s => s.contains p :=
  ofPairs_of_perm (.refl _)

/-- What a union has at a position is the union of what both indices have there. -/
theorem entriesAt_combine (a b : Index) (p : Position) :
    (a.combine b).entriesAt p =
      ((ofPairs (a.entriesAt p)).combine (ofPairs (b.entriesAt p))).entries := by
  rw [ofPairs_entriesAt, ofPairs_entriesAt, ← restrict_combine]
  rfl

/-- Looking up a position is exact. It finds, in strictly ascending order, the entries whose start
is at most the position and whose end is at least the position, by line and then by column; an entry
that ends before it starts is never found. The records are those of the entries, and there is an
innermost entry, and something to hover over, unless there are none. Looking up a position in a
union is uniting what is looked up in both indices. -/
theorem entriesAt_exact :
    (∀ (index : Index) (p : Position),
      ((index.entriesAt p).Pairwise fun a b => a.1.sortKey < b.1.sortKey) ∧
      (∀ e, e ∈ index.entriesAt p ↔
        e ∈ index.entries ∧ e.1.start.key ≤ p.key ∧ p.key ≤ e.1.stop.key) ∧
      (∀ e ∈ index.entries, e.1.stop.key < e.1.start.key → e ∉ index.entriesAt p) ∧
      index.recordsAt p = (index.entriesAt p).map Prod.snd ∧
      (index.innermostAt p = none ↔ index.recordsAt p = []) ∧
      (index.hover p = none ↔ index.recordsAt p = [])) ∧
    (∀ (a b : Index) (p : Position),
      (a.combine b).entriesAt p =
        ((ofPairs (a.entriesAt p)).combine (ofPairs (b.entriesAt p))).entries) := by
  refine ⟨fun index p => ?_, entriesAt_combine⟩
  have hempty : index.recordsAt p = [] ↔ index.entriesAt p = [] := List.map_eq_nil_iff
  refine ⟨(index.sorted_entriesAt p).imp Span.sortKey_lt_iff.mpr, fun e => ?_,
    fun e _ hinv he => ?_, rfl, innermostAt_eq_none_iff.trans hempty.symm,
    hover_eq_none_iff.trans hempty.symm⟩
  · rw [mem_entriesAt_iff, Span.contains_iff, Position.key_le_iff, Position.key_le_iff]
  · have hwf : e.1.start ≤ e.1.stop := Span.wellFormed_of_contains (mem_entriesAt_iff.mp he).2
    exact Position.not_lt.mpr hwf (Position.key_lt_iff.mp hinv)

/-- A position at the end of a span over two lines, with a span that ends before it starts around
it. Only the first one is found; in a union with an index that has another record there, the record
of the first index is. -/
theorem entriesAt_exact_at_end :
    let s : Span := ⟨"T", ⟨1, 7⟩, ⟨2, 3⟩⟩
    let t : Span := ⟨"T", ⟨3, 1⟩, ⟨1, 1⟩⟩
    let x : Record := ⟨"x", none, none, .value, none, .known s, .binding⟩
    let y : Record := ⟨"y", none, none, .value, none, .known s, .reference⟩
    let a := ofPairs [(t, x), (s, x)]
    let b := ofPairs [(s, y)]
    let p : Position := ⟨2, 3⟩
    (t, x) ∈ a.entries ∧ t.stop.key < t.start.key ∧ (t, x) ∉ a.entriesAt p ∧
      (s, x) ∈ a.entriesAt p ∧ ¬ a.innermostAt p = none ∧
      (a.combine b).entriesAt p = [(s, x)] := by
  intro s t x y a b p
  obtain ⟨hexact, hunion⟩ := entriesAt_exact
  obtain ⟨-, hmem, hinverted, -, hinnermost, -⟩ := hexact a p
  have ht : (t, x) ∈ a.entries := by decide +kernel
  have hlt : t.stop.key < t.start.key := Position.key_lt_iff.mpr (by decide)
  have hs : (s, x) ∈ a.entriesAt p := by
    refine (hmem (s, x)).mpr ⟨by decide +kernel, ?_, ?_⟩
    · exact Position.key_le_iff.mpr (by decide)
    · exact Position.key_le_iff.mpr (by decide)
  refine ⟨ht, hlt, hinverted (t, x) ht hlt, hs, ?_, ?_⟩
  · rw [hinnermost]
    exact List.ne_nil_of_mem (List.mem_map_of_mem hs)
  · rw [hunion]
    decide +kernel

end Index

end Xref
