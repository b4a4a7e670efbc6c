import Xref.Record

/-!
# The index

An index maps spans to records. It is kept as the list of its entries in ascending order of their
spans, each span once, so two indices are equal exactly when they list the same entries. Writing a
span that is already there replaces its record.
-/

namespace Xref

/-- A record at the span of its occurrence. -/
abbrev Entry := Span × Record

namespace Entry

/-- Puts an entry into an ascending list, in place of one at the same span. -/
def insertInto (span : Span) (record : Record) : List Entry → List Entry
  | [] => [(span, record)]
  | e :: rest =>
    if span < e.1 then (span, record) :: e :: rest
    else if span = e.1 then (span, record) :: rest
    else e :: insertInto span record rest

/-- Entries of the longer list are the new one or old ones. -/
theorem mem_insertInto {span : Span} {record : Record} {x : Entry} {entries : List Entry}
    (h : x ∈ insertInto span record entries) : x = (span, record) ∨ x ∈ entries := by
  induction entries with
  | nil => simpa [insertInto] using h
  | cons e rest ih =>
    simp only [insertInto] at h
    split at h
    · simpa using h
    · split at h
      · rcases List.mem_cons.mp h with h | h
        · exact .inl h
        · exact .inr (List.mem_cons_of_mem e h)
      · rcases List.mem_cons.mp h with h | h
        · exact .inr (h ▸ List.mem_cons_self)
        · exact (ih h).imp id (List.mem_cons_of_mem e)

/-- Putting an entry into an ascending list keeps it ascending. -/
theorem sorted_insertInto (span : Span) (record : Record) {entries : List Entry}
    (h : entries.Pairwise fun a b => a.1 < b.1) :
    (insertInto span record entries).Pairwise fun a b => a.1 < b.1 := by
  induction entries with
  | nil => simp [insertInto]
  | cons e rest ih =>
    obtain ⟨hfirst, hrest⟩ := List.pairwise_cons.mp h
    simp only [insertInto]
    split
    · next hlt =>
      refine List.pairwise_cons.mpr ⟨fun x hx => ?_, h⟩
      rcases List.mem_cons.mp hx with rfl | hx
      · exact hlt
      · exact Span.lt_trans hlt (hfirst x hx)
    · next hlt =>
      split
      · next heq => exact List.pairwise_cons.mpr ⟨fun x hx => heq ▸ hfirst x hx, hrest⟩
      · next hne =>
        refine List.pairwise_cons.mpr ⟨fun x hx => ?_, ih hrest⟩
        rcases mem_insertInto hx with rfl | hx
        · exact ((Span.lt_trichotomy span e.1).resolve_left hlt).resolve_left hne
        · exact hfirst x hx

end Entry

/-- Records by the spans of their occurrences. -/
structure Index where
  /-- The entries in ascending order. -/
  entries : List Entry
  sorted : entries.Pairwise fun a b => a.1 < b.1
deriving DecidableEq

namespace Index

/-- The index without entries. -/
def empty : Index :=
  ⟨[], .nil⟩

/-- The number of entries. -/
def size (index : Index) : Nat :=
  index.entries.length

/-- The index has no entries. -/
def isEmpty (index : Index) : Bool :=
  index.entries.isEmpty

/-- The record at a span. -/
def get? (index : Index) (span : Span) : Option Record :=
  (index.entries.find? fun e => e.1 = span).map Prod.snd

/-- There is a record at the span. -/
def contains (index : Index) (span : Span) : Bool :=
  (index.get? span).isSome

/-- The records in the order of their spans. -/
def records (index : Index) : List Record :=
  index.entries.map Prod.snd

/-- Writes the record at a span, over the one that may be there. -/
def insert (index : Index) (span : Span) (record : Record) : Index :=
  ⟨Entry.insertInto span record index.entries, Entry.sorted_insertInto span record index.sorted⟩

/-- Writes the record at a span, and gives the one that it displaced. -/
def exchange (index : Index) (span : Span) (record : Record) : Option Record × Index :=
  (index.get? span, index.insert span record)

/-- Writes entries one after the other. -/
def insertAll (index : Index) (pairs : List Entry) : Index :=
  pairs.foldl (fun i e => i.insert e.1 e.2) index

/-- The index of these entries; of several at one span the last counts. -/
def ofPairs (pairs : List Entry) : Index :=
  empty.insertAll pairs

/-- Adds those entries whose spans are still free. -/
def fill (index : Index) (pairs : List Entry) : Index :=
  pairs.foldl (fun i e => if i.contains e.1 then i else i.insert e.1 e.2) index

/-- The entries of both indices; where both have a record, that of `a`. The smaller index is moved
into the larger. -/
def combine (a b : Index) : Index :=
  if b.size ≤ a.size then a.fill b.entries else b.insertAll a.entries

/-- The entries whose span contains a position, in the order of their spans. -/
def entriesAt (index : Index) (p : Position) : List Entry :=
  index.entries.filter fun e => e.1.contains p

/-- The records whose span contains a position. -/
def recordsAt (index : Index) (p : Position) : List Record :=
  (index.entriesAt p).map Prod.snd

/-- The entry of least extent among those that contain a position; of several the first. -/
def innermostAt (index : Index) (p : Position) : Option Entry :=
  (index.entriesAt p).minOn? fun e => e.1.extent

end Index

end Xref
