import Mathlib.Data.Finset.Card
import Xref.Proofs.Index.History

/-!
# Two ways to one union

A union is computed by moving the smaller index into the larger. When the second index is moved, its
entries may only fill free spans; when the first is moved, its entries are written over what is
there. The two ways treat a taken span in opposite manner, but the first index prevails in both
(`Index.get?_fill_entries`, `Index.get?_insertAll_entries`), so both give the same index
(`Index.fill_eq_insertAll`), and the sizes only decide which one is computed.

The spans of a union are the union of the spans, so its size is that of both indices together, less
the spans that they share (`Index.size_combine_add_shared`).
-/

namespace Xref.Index

/-! ## The two ways -/

/-- Filling the first index from the second is writing the first over the second. -/
theorem fill_eq_insertAll (a b : Index) : a.fill b.entries = b.insertAll a.entries := by
  refine ext_get? fun s => ?_
  rw [get?_fill_entries, get?_insertAll_entries]

theorem combine_eq_fill (a b : Index) : a.combine b = a.fill b.entries := by
  unfold combine
  split
  · rfl
  · exact (fill_eq_insertAll a b).symm

/-! ## The size -/

/-- The spans that have a record. -/
def spans (index : Index) : Finset Span :=
  (index.entries.map Prod.fst).toFinset

theorem mem_spans_iff {index : Index} {s : Span} : s ∈ index.spans ↔ index.contains s = true := by
  rw [spans, List.mem_toFinset, mem_map_fst_entries_iff]

theorem card_spans (index : Index) : index.spans.card = index.size := by
  rw [spans, List.toFinset_card_of_nodup (spans_nodup index), List.length_map, size]

theorem spans_combine (a b : Index) : (a.combine b).spans = a.spans ∪ b.spans := by
  ext s
  rw [Finset.mem_union, mem_spans_iff, mem_spans_iff, mem_spans_iff, contains_combine,
    Bool.or_eq_true]

/-- A shared span counts once. -/
theorem size_combine_add_shared (a b : Index) :
    (a.combine b).size + (a.spans ∩ b.spans).card = a.size + b.size := by
  calc (a.combine b).size + (a.spans ∩ b.spans).card
      = (a.spans ∪ b.spans).card + (a.spans ∩ b.spans).card := by rw [← card_spans, spans_combine]
    _ = a.spans.card + b.spans.card := Finset.card_union_add_card_inter a.spans b.spans
    _ = a.size + b.size := by rw [card_spans, card_spans]

/-- Both ways of computing a union are right, whatever the sizes of the indices. Each gives the
record of the first index where there is one, and that of the second elsewhere. They give the same
index, which is the union, and its size is the sum of the sizes less the number of shared spans. -/
theorem combine_both_ways (a b : Index) :
    (∀ s, (a.fill b.entries).get? s = (a.get? s).or (b.get? s)) ∧
    (∀ s, (b.insertAll a.entries).get? s = (a.get? s).or (b.get? s)) ∧
    a.combine b = a.fill b.entries ∧ a.combine b = b.insertAll a.entries ∧
    (∀ s, s ∈ a.spans ∩ b.spans ↔ a.contains s = true ∧ b.contains s = true) ∧
    (a.spans ∩ b.spans).card ≤ a.size + b.size ∧
    (a.combine b).size = a.size + b.size - (a.spans ∩ b.spans).card := by
  have hsize := size_combine_add_shared a b
  refine ⟨get?_fill_entries a b, get?_insertAll_entries a b, combine_eq_fill a b, ?_, fun s => ?_,
    ?_, ?_⟩
  · rw [combine_eq_fill, fill_eq_insertAll]
  · rw [Finset.mem_inter, mem_spans_iff, mem_spans_iff]
  · omega
  · omega

/-- Two names in one index and one in the other, of which one is shared: moved either way, two
entries are left, with the record of the first index at the shared span. -/
example :
    let s := Span.onLine "T" 1 1 1
    let t := Span.onLine "T" 1 3 3
    let x : Record := ⟨"x", none, none, .value, none, .known s, .binding⟩
    let y : Record := ⟨"y", none, none, .value, none, .known s, .reference⟩
    let many := ofPairs [(s, x), (t, x)]
    let one := ofPairs [(t, y)]
    (one.combine many).entries = [(s, x), (t, y)] ∧ (many.combine one).entries = [(s, x), (t, x)] ∧
      (many.spans ∩ one.spans).card = 1 := by
  decide +kernel

end Xref.Index
