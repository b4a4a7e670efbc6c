import Xref.Index.Basic

/-!
# Looking up spans

What an index holds, seen through `Index.get?`. Writing a span changes the record at this span and
no other (`get?_insert`), so of several writes to a span the last one is found (`get?_ofPairs`). An
index lists an entry exactly when its record is found at its span (`mem_entries_iff`).
-/

namespace Xref

/-- The first entry at a span after one was put into a list: the new entry at its own span, and what
was found before at any other. -/
theorem Entry.find?_insertInto (span : Span) (record : Record) (entries : List Entry) (s : Span) :
    (insertInto span record entries).find? (fun e => e.1 = s) =
      if span = s then some (span, record) else entries.find? fun e => e.1 = s := by
  induction entries with
  | nil =>
    rw [insertInto, List.find?_singleton]
    simp
  | cons e rest ih =>
    rw [insertInto]
    by_cases hlt : span < e.1
    · rw [if_pos hlt, List.find?_cons]
      by_cases hs : span = s <;> simp [hs]
    · rw [if_neg hlt]
      by_cases heq : span = e.1
      · rw [if_pos heq, List.find?_cons, List.find?_cons, ← heq]
        by_cases hs : span = s <;> simp [hs]
      · rw [if_neg heq, List.find?_cons, List.find?_cons, ih]
        by_cases hs : span = s
        · have hne : e.1 ≠ s := fun h => heq (hs.trans h.symm)
          simp [hs, hne]
        · simp [hs]

/-- An entry whose record is found at its span is in the list. -/
theorem Entry.mem_of_find? {entries : List Entry} {e : Entry}
    (h : (entries.find? fun x => x.1 = e.1).map Prod.snd = some e.2) : e ∈ entries := by
  obtain ⟨found, hfound, hrecord⟩ := Option.map_eq_some_iff.mp h
  have hspan : found.1 = e.1 := by simpa using List.find?_some hfound
  have heq : found = e := Prod.ext hspan hrecord
  rw [← heq]
  exact List.mem_of_find?_eq_some hfound

namespace Index

/-- Writing a span changes the record there, and nothing else. -/
theorem get?_insert (index : Index) (span : Span) (record : Record) (s : Span) :
    (index.insert span record).get? s = if span = s then some record else index.get? s := by
  unfold get? insert
  rw [Entry.find?_insertInto]
  split <;> rfl

/-- After writing entries in order, the last one at a span is found there, or else what was there
before. -/
theorem get?_insertAll (index : Index) (pairs : List Entry) (s : Span) :
    (index.insertAll pairs).get? s =
      ((pairs.reverse.find? fun e => e.1 = s).map Prod.snd).or (index.get? s) := by
  induction pairs generalizing index with
  | nil => rfl
  | cons e pairs ih =>
    have hstep : index.insertAll (e :: pairs) = (index.insert e.1 e.2).insertAll pairs := rfl
    rw [hstep, ih, get?_insert, List.reverse_cons, List.find?_append, List.find?_singleton]
    cases pairs.reverse.find? fun e => e.1 = s with
    | some found => rfl
    | none => by_cases hs : e.1 = s <;> simp [hs]

/-- In the index of a list of entries, the last one at a span is found there. -/
theorem get?_ofPairs (pairs : List Entry) (s : Span) :
    (ofPairs pairs).get? s = (pairs.reverse.find? fun e => e.1 = s).map Prod.snd := by
  unfold ofPairs
  rw [get?_insertAll]
  exact Option.or_none

/-- An index lists the entries whose records are found at their spans. -/
theorem mem_entries_iff {index : Index} {e : Entry} :
    e ∈ index.entries ↔ index.get? e.1 = some e.2 := by
  unfold get?
  constructor
  · intro he
    -- Entries before `e` have smaller spans, so none of them is found instead.
    obtain ⟨before, after, hsplit⟩ := List.append_of_mem he
    have hsorted := index.sorted
    rw [hsplit] at hsorted
    have hlt := (List.pairwise_append.mp hsorted).2.2
    refine Option.map_eq_some_iff.mpr ⟨e, ?_, rfl⟩
    rw [List.find?_eq_some_iff_append]
    refine ⟨by simp, before, after, hsplit, fun a ha => ?_⟩
    have hne := Span.ne_of_lt (hlt a ha e List.mem_cons_self)
    simpa using hne
  · intro h
    exact Entry.mem_of_find? h

/-- The index of a list of entries has no others. -/
theorem mem_of_mem_entries_ofPairs {pairs : List Entry} {e : Entry}
    (h : e ∈ (ofPairs pairs).entries) : e ∈ pairs := by
  rw [mem_entries_iff, get?_ofPairs] at h
  exact List.mem_reverse.mp (Entry.mem_of_find? h)

/-- The spans of the index of a list of entries are the spans of the list. -/
theorem contains_ofPairs {pairs : List Entry} {s : Span} :
    (ofPairs pairs).contains s = true ↔ ∃ e ∈ pairs, e.1 = s := by
  unfold contains
  rw [get?_ofPairs, Option.isSome_map, List.find?_isSome]
  constructor
  · rintro ⟨e, he, hs⟩
    exact ⟨e, List.mem_reverse.mp he, by simpa using hs⟩
  · rintro ⟨e, he, hs⟩
    exact ⟨e, List.mem_reverse.mpr he, by simpa using hs⟩

end Index

end Xref
