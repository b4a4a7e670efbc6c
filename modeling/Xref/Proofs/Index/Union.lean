import Mathlib.Data.List.Nodup
import Xref.Proofs.Index.Lookup

/-!
# Unions of indices

An index is determined by what is found in it (`Index.ext_get?`), since its entries are ascending:
two ascending lists with the same members are the same list. So equations between indices are
checked span by span.

The union of two indices is computed in one of two ways, by their sizes: the entries of the second
fill the free spans of the first, or the entries of the first are written over those of the second.
Either way the first index counts (`Index.get?_combine`). The entries that the second index adds can
be left out again by their spans (`Index.filter_combine`), so a query that answers nothing for them
has the answer of the first index alone (`Index.filterMap_combine`).
-/

namespace Xref

/-! ## Extensionality -/

/-- Ascending entries are determined by their members. -/
theorem Entry.eq_of_mem_iff {a b : List Entry} (ha : a.Pairwise fun x y => x.1 < y.1)
    (hb : b.Pairwise fun x y => x.1 < y.1) (h : ∀ e, e ∈ a ↔ e ∈ b) : a = b := by
  have hnodup : ∀ {l : List Entry}, (l.Pairwise fun x y => x.1 < y.1) → l.Nodup := fun hl =>
    hl.imp fun hlt heq => Span.ne_of_lt hlt (congrArg Prod.fst heq)
  have hperm : a.Perm b := (List.perm_ext_iff_of_nodup (hnodup ha) (hnodup hb)).mpr h
  refine hperm.eq_of_pairwise (fun x y _ _ hxy hyx => ?_) ha hb
  exact absurd hyx (Span.lt_asymm hxy)

namespace Index

/-- Indices are equal when they list the same entries. -/
theorem entries_inj {a b : Index} : a.entries = b.entries ↔ a = b := by
  cases a
  cases b
  rw [Index.mk.injEq]

/-- Indices in which the same records are found are equal. -/
theorem ext_get? {a b : Index} (h : ∀ s, a.get? s = b.get? s) : a = b := by
  refine entries_inj.mp (Entry.eq_of_mem_iff a.sorted b.sorted fun e => ?_)
  rw [mem_entries_iff, mem_entries_iff, h]

/-! ## Writing over, and filling -/

/-- An index lists a span once, so it does not matter from which end it is searched. -/
theorem find?_reverse_entries (index : Index) (s : Span) :
    (index.entries.reverse.find? fun e => e.1 = s).map Prod.snd = index.get? s := by
  cases hfind : index.entries.reverse.find? fun e => e.1 = s with
  | none =>
    have habsent : index.entries.find? (fun e => e.1 = s) = none := by
      rw [List.find?_eq_none] at hfind ⊢
      exact fun e he => hfind e (List.mem_reverse.mpr he)
    unfold get?
    rw [habsent]
  | some e =>
    have hspan : e.1 = s := by simpa using List.find?_some hfind
    have he : e ∈ index.entries := List.mem_reverse.mp (List.mem_of_find?_eq_some hfind)
    rw [← hspan, mem_entries_iff.mp he]
    rfl

/-- Entries fill a span only where it is free, and the first of them does so. -/
theorem get?_fill (index : Index) (pairs : List Entry) (s : Span) :
    (index.fill pairs).get? s =
      (index.get? s).or ((pairs.find? fun e => e.1 = s).map Prod.snd) := by
  induction pairs generalizing index with
  | nil => exact Option.or_none.symm
  | cons e pairs ih =>
    have hstep : index.fill (e :: pairs) =
        (if index.contains e.1 then index else index.insert e.1 e.2).fill pairs := rfl
    rw [hstep, ih, List.find?_cons]
    cases hold : index.get? e.1 with
    | some r =>
      -- The span is taken, so the step does nothing, and the entry is not found behind the record.
      have hcontains : index.contains e.1 = true := by rw [contains, hold]; rfl
      rw [if_pos hcontains]
      by_cases hs : e.1 = s
      · rw [← hs, hold]
        rfl
      · simp [hs]
    | none =>
      -- The span is free. From now on it is taken by the entry, the first of the list there.
      have hcontains : index.contains e.1 ≠ true := by simp [contains, hold]
      rw [if_neg hcontains, get?_insert]
      by_cases hs : e.1 = s
      · rw [if_pos hs, ← hs, hold]
        simp
      · simp [hs]

/-! ## The union -/

/-- Filling an index from another one keeps what it has. -/
theorem get?_fill_entries (a b : Index) (s : Span) :
    (a.fill b.entries).get? s = (a.get? s).or (b.get? s) :=
  get?_fill a b.entries s

/-- Writing an index over another one replaces what that has. -/
theorem get?_insertAll_entries (a b : Index) (s : Span) :
    (b.insertAll a.entries).get? s = (a.get? s).or (b.get? s) := by
  rw [get?_insertAll, find?_reverse_entries]

/-- In a union the record of the first index counts, and that of the second where the first has
none. -/
theorem get?_combine (a b : Index) (s : Span) :
    (a.combine b).get? s = (a.get? s).or (b.get? s) := by
  unfold combine
  split
  · exact get?_fill_entries a b s
  · exact get?_insertAll_entries a b s

/-- The spans of a union are those of both indices. -/
theorem contains_combine (a b : Index) (s : Span) :
    (a.combine b).contains s = (a.contains s || b.contains s) := by
  unfold contains
  rw [get?_combine, Option.isSome_or]

/-- An entry of a union belongs to the first index, or to the second and the first has none
there. -/
theorem mem_combine_iff {a b : Index} {e : Entry} :
    e ∈ (a.combine b).entries ↔
      e ∈ a.entries ∨ (a.contains e.1 = false ∧ e ∈ b.entries) := by
  rw [mem_entries_iff, mem_entries_iff, mem_entries_iff, get?_combine, Option.or_eq_some_iff,
    contains, Option.isSome_eq_false_iff, Option.isNone_iff_eq_none]

/-- The span of an entry is in the index. -/
theorem contains_of_mem {index : Index} {e : Entry} (h : e ∈ index.entries) :
    index.contains e.1 = true := by
  rw [contains, mem_entries_iff.mp h]
  rfl

/-- The spans of an index are those of its entries. -/
theorem mem_map_fst_entries_iff {index : Index} {s : Span} :
    s ∈ index.entries.map Prod.fst ↔ index.contains s = true := by
  constructor
  · intro hs
    obtain ⟨e, he, rfl⟩ := List.mem_map.mp hs
    exact contains_of_mem he
  · intro hs
    obtain ⟨r, hr⟩ := Option.isSome_iff_exists.mp hs
    exact List.mem_map.mpr ⟨(s, r), mem_entries_iff.mpr hr, rfl⟩

/-- Of a union, the entries at spans of the first index are the first index. -/
theorem filter_combine (a b : Index) :
    ((a.combine b).entries.filter fun e => a.contains e.1) = a.entries := by
  refine Entry.eq_of_mem_iff ((a.combine b).sorted.filter _) a.sorted fun e => ?_
  rw [List.mem_filter, mem_combine_iff]
  constructor
  · rintro ⟨he | ⟨hfree, -⟩, hcontains⟩
    · exact he
    · rw [hfree] at hcontains
      cases hcontains
  · intro he
    exact ⟨.inl he, contains_of_mem he⟩

/-- A query that has no answer for the entries of the second index sees the first one alone. -/
theorem filterMap_combine {α : Type} {a b : Index} {f : Entry → Option α}
    (h : ∀ e ∈ b.entries, f e = none) :
    (a.combine b).entries.filterMap f = a.entries.filterMap f := by
  rw [← filter_combine a b, List.filterMap_filter]
  refine List.filterMap_congr fun e he => ?_
  cases hcontains : a.contains e.1 with
  | true => rfl
  | false =>
    -- The entry was added by the second index.
    rcases mem_combine_iff.mp he with ha | ⟨-, hb⟩
    · rw [contains_of_mem ha] at hcontains
      cases hcontains
    · exact h e hb

end Index

end Xref
