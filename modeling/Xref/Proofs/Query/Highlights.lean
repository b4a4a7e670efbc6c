import Mathlib.Data.Set.Card
import Mathlib.Order.Interval.Finset.Nat
import Xref.Proofs.Query.AtPosition
import Xref.Proofs.Query.EachEntry
import Xref.Query.Highlight

/-!
# Highlights and the entries at a position

An entry within one line has one highlight (`Entry.exists_highlightedBy`), which starts where it
starts. Its length is a number of columns, computed from the ends of the span, and looking up a
position compares the position with the same ends. So the length is the number of columns that the
span contains (`Span.ncard_columns`), and a position in the line is highlighted exactly when looking
it up finds the entry (`Index.highlighted_iff_mem_entriesAt`). Only a span of all columns is one
column too long for its highlight.
-/

namespace Xref

namespace Span

/-- In one file, a span that comes first does not start later. -/
theorem start_le_of_lt {a b : Span} (hfile : a.file = b.file) (h : a < b) : a.start ≤ b.start := by
  rcases lt_def.mp h with hless | ⟨-, hless | ⟨heq, -⟩⟩
  · rw [hfile] at hless
    exact absurd hless (String.lt_irrefl _)
  · rw [Position.lt_iff] at hless
    rw [Position.le_iff]
    omega
  · rw [heq]
    exact Position.le_refl _

/-! ## Columns -/

/-- The columns that a span contains in its first line. -/
def columns (s : Span) : Set Coordinate :=
  {c | s.contains ⟨s.start.line, c⟩ = true}

/-- A span within one line contains the positions of the line from the first to the last column. -/
theorem contains_iff_of_line_eq {s : Span} (h : s.start.line = s.stop.line) {p : Position} :
    s.contains p = true ↔ p.line = s.start.line ∧
      s.start.col.toNat ≤ p.col.toNat ∧ p.col.toNat ≤ s.stop.col.toNat := by
  have hline := congrArg UInt32.toNat h
  rw [contains_iff, Position.le_iff, Position.le_iff, ← UInt32.toNat_inj]
  omega

theorem toNat_image_columns {s : Span} (h : s.start.line = s.stop.line) :
    UInt32.toNat '' s.columns = Set.Icc s.start.col.toNat s.stop.col.toNat := by
  have hmem : ∀ c, c ∈ s.columns ↔ s.start.col.toNat ≤ c.toNat ∧ c.toNat ≤ s.stop.col.toNat := by
    intro c
    rw [columns, Set.mem_ofPred_eq, contains_iff_of_line_eq h]
    exact and_iff_right rfl
  ext n
  rw [Set.mem_image, Set.mem_Icc]
  constructor
  · rintro ⟨c, hc, rfl⟩
    exact (hmem c).mp hc
  · rintro ⟨hfirst, hlast⟩
    have hlt : n < 2 ^ 32 := Nat.lt_of_le_of_lt hlast s.stop.col.toNat_lt
    have hn : (UInt32.ofNat n).toNat = n := UInt32.toNat_ofNat_of_lt' hlt
    refine ⟨UInt32.ofNat n, (hmem _).mpr ?_, hn⟩
    rw [hn]
    exact ⟨hfirst, hlast⟩

/-- How many columns a span within one line contains. -/
theorem ncard_columns {s : Span} (h : s.start.line = s.stop.line) :
    s.columns.ncard = s.stop.col.toNat + 1 - s.start.col.toNat := by
  have hinj : Function.Injective UInt32.toNat := fun _ _ => UInt32.toNat_inj.mp
  calc s.columns.ncard = (UInt32.toNat '' s.columns).ncard :=
        (Set.ncard_image_of_injective _ hinj).symm
    _ = (Set.Icc s.start.col.toNat s.stop.col.toNat).ncard := by rw [toNat_image_columns h]
    _ = s.stop.col.toNat + 1 - s.start.col.toNat := by
        rw [Set.ncard_eq_toFinset_card', Set.toFinset_Icc, Nat.card_Icc]

end Span

namespace Entry

/-! ## The highlight of an entry -/

/-- The highlight is that of the entry. Its length is computed without leaving the numbers of 32
bits: the distance of the ends plus one, or the greatest number if that is too much. -/
structure HighlightedBy (e : Entry) (highlight : Highlight) : Prop where
  start : highlight.start = e.1.start
  length : highlight.length.toNat =
    min (e.1.stop.col.toNat - e.1.start.col.toNat + 1) (2 ^ 32 - 1)
  kind : highlight.kind = e.2.highlightKind
  declaration : highlight.declaration = true ↔ e.2.use = .binding

theorem exists_highlightedBy {e : Entry} (h : e.1.start.line = e.1.stop.line) :
    ∃ highlight, e.highlight? = some highlight ∧ e.HighlightedBy highlight := by
  refine ⟨_, if_pos h, rfl, ?_, rfl, Use.isBinding_iff⟩
  rw [Coordinate.toNat_next, Coordinate.toNat_minus]
  rfl

theorem highlight?_eq_none {e : Entry} (h : ¬ e.1.start.line = e.1.stop.line) :
    e.highlight? = none :=
  if_neg h

theorem start_of_highlight? {e : Entry} {highlight : Highlight}
    (h : e.highlight? = some highlight) : highlight.start = e.1.start := by
  unfold highlight? at h
  split at h
  · rw [← Option.some.inj h]
  · cases h

/-- The length of a highlight is the number of columns, if it is a number of 32 bits. -/
theorem HighlightedBy.length_eq {e : Entry} {highlight : Highlight} (h : e.HighlightedBy highlight)
    (hline : e.1.start.line = e.1.stop.line) (hcol : e.1.start.col ≤ e.1.stop.col) :
    highlight.length.toNat = min e.1.columns.ncard (2 ^ 32 - 1) := by
  have hle := UInt32.le_iff_toNat_le.mp hcol
  rw [h.length, Span.ncard_columns hline]
  omega

end Entry

namespace Index

/-! ## The highlights of an index -/

/-- The highlights of one file are in order. -/
theorem highlights_pairwise {index : Index} {file : String}
    (h : ∀ e ∈ index.entries, e.1.file = file) :
    index.highlights.Pairwise fun a b => a.start.key ≤ b.start.key := by
  refine List.pairwise_filterMap.mpr (index.sorted.imp_of_mem ?_)
  intro a b ha hb hlt x hx y hy
  rw [Entry.start_of_highlight? hx, Entry.start_of_highlight? hy, Position.key_le_iff]
  exact Span.start_le_of_lt ((h a ha).trans (h b hb).symm) hlt

/-- A position in the line of a highlight is highlighted exactly when its entry is found there. -/
theorem highlighted_iff_mem_entriesAt {index : Index} {e : Entry} {highlight : Highlight}
    (he : e ∈ index.entries) (h : e.HighlightedBy highlight)
    (hline : e.1.start.line = e.1.stop.line) (hcol : e.1.start.col ≤ e.1.stop.col)
    (hcap : e.1.columns.ncard < 2 ^ 32) {p : Position} (hp : p.line = highlight.start.line) :
    (highlight.start.col.toNat ≤ p.col.toNat ∧
      p.col.toNat < highlight.start.col.toNat + highlight.length.toNat) ↔
      e ∈ index.entriesAt p := by
  have hlength := h.length_eq hline hcol
  have hle := UInt32.le_iff_toNat_le.mp hcol
  rw [h.start] at hp ⊢
  rw [mem_entriesAt_iff, and_iff_right he, Span.contains_iff_of_line_eq hline, and_iff_right hp,
    hlength]
  rw [Span.ncard_columns hline] at hcap ⊢
  omega

/-- Highlights cover exactly what the entries within one line contain. There is one for each of
them, in the order of the spans, and in one file they are sorted by line and column. If an entry
does not end before it starts, the length of its highlight is the number of its columns, up to the
greatest number of 32 bits. Unless that is exceeded, a position in the line is highlighted exactly
when looking it up finds the entry. -/
theorem highlights_exact (index : Index) :
    List.Forall₂
      (fun e highlight => e.HighlightedBy highlight ∧
        (e.1.start.col ≤ e.1.stop.col →
          highlight.length.toNat = min e.1.columns.ncard (2 ^ 32 - 1) ∧
          (e.1.columns.ncard < 2 ^ 32 → ∀ p : Position, p.line = highlight.start.line →
            ((highlight.start.col.toNat ≤ p.col.toNat ∧
              p.col.toNat < highlight.start.col.toNat + highlight.length.toNat) ↔
              e ∈ index.entriesAt p))))
      (index.entries.filter fun e => e.1.start.line = e.1.stop.line) index.highlights ∧
    (∀ file, (∀ e ∈ index.entries, e.1.file = file) →
      index.highlights.Pairwise fun a b => a.start.key ≤ b.start.key) := by
  refine ⟨index.forall₂_filterMap (fun e he hline => ?_) fun _ _ => Entry.highlight?_eq_none,
    fun file hfile => highlights_pairwise hfile⟩
  obtain ⟨highlight, hsome, h⟩ := Entry.exists_highlightedBy hline
  refine ⟨highlight, hsome, h, fun hcol => ⟨h.length_eq hline hcol, fun hcap p hp => ?_⟩⟩
  exact highlighted_iff_mem_entriesAt he h hline hcol hcap hp

/-- A name in the columns 3 to 5, an entry over two lines, and one that takes up all columns of a
line. The first and the last have highlights, the last one as long as can be. The first one is found
in column 5 and not in column 6. -/
theorem highlights_exact_of_full_line :
    let r : Record := ⟨"x", none, none, .value, some "Int", .placeholder "none", .reference⟩
    let s : Span := .onLine "T" 1 3 5
    let full : Span := .onLine "T" 3 0 4294967295
    let index := ofPairs [(full, r), (⟨"T", ⟨1, 7⟩, ⟨2, 1⟩⟩, r), (s, r)]
    (∀ e ∈ index.entries, e.1.file = "T") ∧
      index.highlights = [⟨⟨1, 3⟩, 3, .plain, false⟩, ⟨⟨3, 0⟩, 4294967295, .plain, false⟩] ∧
      (index.highlights.Pairwise fun a b => a.start.key ≤ b.start.key) ∧
      s.columns.ncard = 3 ∧ (s, r) ∈ index.entriesAt ⟨1, 5⟩ ∧ (s, r) ∉ index.entriesAt ⟨1, 6⟩ := by
  intro r s full index
  have hfile : ∀ e ∈ index.entries, e.1.file = "T" := by decide +kernel
  have hkept : (index.entries.filter fun e => e.1.start.line = e.1.stop.line) =
      [(s, r), (full, r)] := by decide +kernel
  have hlist : index.highlights =
      [⟨⟨1, 3⟩, 3, .plain, false⟩, ⟨⟨3, 0⟩, 4294967295, .plain, false⟩] := by decide +kernel
  obtain ⟨hexact, hsorted⟩ := highlights_exact index
  rw [hkept, hlist] at hexact
  obtain ⟨hlength, hpoints⟩ := (List.forall₂_cons.mp hexact).1.2 (by decide)
  have hcard : s.columns.ncard = 3 := by
    have hthree : 3 = min s.columns.ncard (2 ^ 32 - 1) := hlength
    omega
  have hpoint := hpoints (by rw [hcard]; decide)
  exact ⟨hfile, hlist, hsorted "T" hfile, hcard, (hpoint ⟨1, 5⟩ rfl).mp (by decide),
    mt (hpoint ⟨1, 6⟩ rfl).mpr (by decide)⟩

end Index

end Xref
