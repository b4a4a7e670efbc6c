import Mathlib.Data.List.Dedup
import Mathlib.Logic.Function.Basic
import Xref.Proofs.Index.Union
import Xref.Proofs.Source.ByteOrder

/-!
# Indices after any history

Indices come about by operations: one is emptied, written to, built from pairs, or made the union of
two others. Whatever the operations are and however many indices take part, an index only depends on
the writes that went into it, in their order. A union counts as the writes of its second index and
then those of its first, since the first index prevails. So every index is `Index.ofPairs` of its
writes (`Index.Operation.run_eq_ofPairs`), one operation at a time.

What is left is to say what `Index.ofPairs` makes of a list: the last entry at each span
(`Entry.lastAt?`), sorted (`Index.entries_ofPairs`).
-/

namespace Xref

/-! ## Last writes -/

namespace Entry

/-- The record of the last entry at a span. -/
def lastAt? (pairs : List Entry) (s : Span) : Option Record :=
  (pairs.findRev? fun e => e.1 = s).map Prod.snd

/-- Leaves out every entry that has a later one at its span. -/
def lastOfEach : List Entry → List Entry
  | [] => []
  | e :: rest => if rest.any fun x => x.1 = e.1 then lastOfEach rest else e :: lastOfEach rest

/-- The entries in the order of their spans. -/
def sort (entries : List Entry) : List Entry :=
  entries.mergeSort fun a b => !decide (b.1 < a.1)

theorem lastAt?_cons (e : Entry) (rest : List Entry) (s : Span) :
    lastAt? (e :: rest) s = (lastAt? rest s).or (if e.1 = s then some e.2 else none) := by
  unfold lastAt?
  rw [List.findRev?]
  cases rest.findRev? fun x => x.1 = s with
  | some found => rfl
  | none => by_cases hs : e.1 = s <;> simp [hs]

/-- A span is found if it has an entry. -/
theorem lastAt?_isSome_iff {pairs : List Entry} {s : Span} :
    (lastAt? pairs s).isSome = true ↔ s ∈ pairs.map Prod.fst := by
  unfold lastAt?
  rw [Option.isSome_map, List.findRev?_eq_find?_reverse, List.find?_isSome]
  simp

/-- Entries at other spans do not matter for what is last at a span. -/
theorem lastAt?_filter (pairs : List Entry) (s : Span) :
    lastAt? (pairs.filter fun e => e.1 = s) s = lastAt? pairs s := by
  unfold lastAt?
  rw [List.findRev?_eq_find?_reverse, List.findRev?_eq_find?_reverse, ← List.filter_reverse,
    List.find?_filter]
  simp

/-- What is kept of a list are the last entries at their spans. -/
theorem mem_lastOfEach_iff {pairs : List Entry} {e : Entry} :
    e ∈ lastOfEach pairs ↔ lastAt? pairs e.1 = some e.2 := by
  induction pairs with
  | nil => simp [lastOfEach, lastAt?, List.findRev?]
  | cons x rest ih =>
    rw [lastOfEach, lastAt?_cons, Option.or_eq_some_iff]
    by_cases hlater : x.1 ∈ rest.map Prod.fst
    · -- The entry `x` is left out, and no search gets as far as `x`.
      have hany : (rest.any fun y => y.1 = x.1) = true := by simpa using hlater
      rw [if_pos hany, ih]
      refine ⟨.inl, fun h => h.resolve_right ?_⟩
      rintro ⟨hnone, hx⟩
      obtain ⟨hspan, -⟩ := Option.ite_none_right_eq_some.mp hx
      have hsome := lastAt?_isSome_iff.mpr hlater
      rw [hspan, hnone] at hsome
      cases hsome
    · have hany : ¬ (rest.any fun y => y.1 = x.1) = true := by simpa using hlater
      have hnone : lastAt? rest x.1 = none := by
        rw [← Option.not_isSome_iff_eq_none, lastAt?_isSome_iff]
        exact hlater
      rw [if_neg hany, List.mem_cons, ih, or_comm]
      refine or_congr_right ⟨?_, ?_⟩
      · rintro rfl
        exact ⟨hnone, if_pos rfl⟩
      · rintro ⟨-, hx⟩
        obtain ⟨hspan, hrecord⟩ := Option.ite_none_right_eq_some.mp hx
        exact (Prod.ext hspan (Option.some.inj hrecord)).symm

/-- No two of the kept entries are at one span. -/
theorem lastOfEach_pairwise (pairs : List Entry) :
    (lastOfEach pairs).Pairwise fun a b => a.1 ≠ b.1 := by
  induction pairs with
  | nil => exact .nil
  | cons x rest ih =>
    rw [lastOfEach]
    split
    · exact ih
    · next hany =>
      refine List.pairwise_cons.mpr ⟨fun e he hspan => hany ?_, ih⟩
      have hsome : (lastAt? rest e.1).isSome = true := by
        rw [mem_lastOfEach_iff.mp he]
        rfl
      simpa [hspan] using lastAt?_isSome_iff.mp hsome

/-- Of entries at different spans all are kept. -/
theorem lastOfEach_of_pairwise {pairs : List Entry} (h : pairs.Pairwise fun a b => a.1 ≠ b.1) :
    lastOfEach pairs = pairs := by
  induction pairs with
  | nil => rfl
  | cons x rest ih =>
    obtain ⟨hx, hrest⟩ := List.pairwise_cons.mp h
    have hany : ¬ (rest.any fun y => y.1 = x.1) = true := by
      rw [List.any_eq_true]
      rintro ⟨y, hy, hspan⟩
      exact hx y hy (of_decide_eq_true hspan).symm
    rw [lastOfEach, if_neg hany, ih hrest]

/-- Sorted entries at different spans are strictly ascending. -/
theorem sort_pairwise {entries : List Entry} (h : entries.Pairwise fun a b => a.1 ≠ b.1) :
    (sort entries).Pairwise fun a b => a.1 < b.1 := by
  have hle : (sort entries).Pairwise fun a b => (!decide (b.1 < a.1)) = true := by
    refine List.pairwise_mergeSort (fun a b c hab hbc => ?_) (fun a b => ?_) entries
    · simp only [Bool.not_eq_true', decide_eq_false_iff_not] at hab hbc ⊢
      intro hca
      rcases Span.lt_trichotomy a.1 b.1 with hlt | heq | hgt
      · exact hbc (Span.lt_trans hca hlt)
      · exact hbc (heq ▸ hca)
      · exact hab hgt
    · by_cases hba : b.1 < a.1
      · simp [Span.lt_asymm hba]
      · simp [hba]
  have hne : (sort entries).Pairwise fun a b => a.1 ≠ b.1 :=
    (List.mergeSort_perm entries _).symm.pairwise h fun hab hba => hab hba.symm
  refine (hle.and hne).imp fun {a b} hab => ?_
  have hnot : ¬ b.1 < a.1 := by simpa using hab.1
  exact ((Span.lt_trichotomy a.1 b.1).resolve_right fun hor => hor.elim hab.2 hnot)

end Entry

namespace Index

/-! ## Indices of pairs -/

/-- In the index of a list of entries, the last record at each span is found. -/
theorem get?_ofPairs_eq_lastAt? (pairs : List Entry) (s : Span) :
    (ofPairs pairs).get? s = Entry.lastAt? pairs s := by
  rw [get?_ofPairs, Entry.lastAt?, List.findRev?_eq_find?_reverse]

/-- The index of a list has the last entry at each span, sorted by the spans. -/
theorem entries_ofPairs (pairs : List Entry) :
    (ofPairs pairs).entries = Entry.sort (Entry.lastOfEach pairs) := by
  refine Entry.eq_of_mem_iff (ofPairs pairs).sorted
    (Entry.sort_pairwise (Entry.lastOfEach_pairwise pairs)) fun e => ?_
  rw [mem_entries_iff, get?_ofPairs_eq_lastAt?, Entry.sort, List.mem_mergeSort,
    Entry.mem_lastOfEach_iff]

/-- No span is listed twice. -/
theorem spans_nodup (index : Index) : (index.entries.map Prod.fst).Nodup :=
  List.pairwise_map.mpr (index.sorted.imp Span.ne_of_lt)

/-- An index has as many entries as there are different spans among its writes. -/
theorem size_ofPairs (pairs : List Entry) :
    (ofPairs pairs).size = (pairs.map Prod.fst).dedup.length := by
  have hperm : ((ofPairs pairs).entries.map Prod.fst).Perm (pairs.map Prod.fst).dedup := by
    refine (List.perm_ext_iff_of_nodup (spans_nodup _) (List.nodup_dedup _)).mpr fun s => ?_
    rw [mem_map_fst_entries_iff, contains, get?_ofPairs_eq_lastAt?, Entry.lastAt?_isSome_iff,
      List.mem_dedup]
  rw [size, ← hperm.length_eq, List.length_map]

/-- The order in which the entries of an index are written does not matter. -/
theorem ofPairs_of_perm {index : Index} {pairs : List Entry} (h : pairs.Perm index.entries) :
    ofPairs pairs = index := by
  have hspans : pairs.Pairwise fun a b => a.1 ≠ b.1 :=
    h.symm.pairwise (index.sorted.imp Span.ne_of_lt) fun hab hba => hab hba.symm
  refine entries_inj.mp (Entry.eq_of_mem_iff (ofPairs pairs).sorted index.sorted fun e => ?_)
  rw [entries_ofPairs, Entry.lastOfEach_of_pairwise hspans, Entry.sort, List.mem_mergeSort,
    h.mem_iff]

/-! ## Operations -/

/-- Operations on a store of indices, each known by a label. -/
inductive Operation (ν : Type) where
  /-- Empties an index. -/
  | new (label : ν)
  | insert (label : ν) (span : Span) (record : Record)
  /-- Writes pairs to an index, one after the other. -/
  | extend (label : ν) (pairs : List Entry)
  /-- Builds an index anew from pairs. -/
  | ofPairs (label : ν) (pairs : List Entry)
  /-- Puts the union of two indices, of which the first prevails, in the place of a third. -/
  | combine (label first second : ν)

namespace Operation

variable {ν : Type} [DecidableEq ν]

/-- What an operation does to a store. -/
def apply (store : ν → Index) : Operation ν → ν → Index
  | new label => Function.update store label .empty
  | insert label span record =>
    Function.update store label ((store label).exchange span record).2
  | extend label pairs => Function.update store label ((store label).insertAll pairs)
  | ofPairs label pairs => Function.update store label (.ofPairs pairs)
  | combine label first second =>
    Function.update store label ((store first).combine (store second))

/-- The store after operations on empty indices. -/
def run (ops : List (Operation ν)) : ν → Index :=
  ops.foldl apply fun _ => .empty

/-- What an operation adds to the writes of each index. A union is written by writing its second
index and then its first. -/
def log (writes : ν → List Entry) : Operation ν → ν → List Entry
  | new label => Function.update writes label []
  | insert label span record => Function.update writes label (writes label ++ [(span, record)])
  | extend label pairs => Function.update writes label (writes label ++ pairs)
  | ofPairs label pairs => Function.update writes label pairs
  | combine label first second => Function.update writes label (writes second ++ writes first)

/-- The writes that went into each index, the earliest first. -/
def writes (ops : List (Operation ν)) : ν → List Entry :=
  ops.foldl log fun _ => []

end Operation

/-- Pairs that are written later come after those that were written before. -/
theorem insertAll_ofPairs (before pairs : List Entry) :
    (ofPairs before).insertAll pairs = ofPairs (before ++ pairs) := by
  unfold ofPairs insertAll
  rw [List.foldl_append]

/-- A union is written by writing its second index and then its first. -/
theorem combine_ofPairs (a b : List Entry) :
    (ofPairs a).combine (ofPairs b) = ofPairs (b ++ a) := by
  refine ext_get? fun s => ?_
  rw [get?_combine, get?_ofPairs, get?_ofPairs, get?_ofPairs, List.reverse_append,
    List.find?_append]
  cases a.reverse.find? fun e => e.1 = s <;> rfl

namespace Operation

variable {ν : Type} [DecidableEq ν]

/-- If every index is that of its writes, so it is after one more operation. -/
theorem apply_eq_ofPairs {store : ν → Index} {writes : ν → List Entry}
    (h : ∀ label, store label = .ofPairs (writes label)) (op : Operation ν) (label : ν) :
    apply store op label = .ofPairs (log writes op label) := by
  -- An operation changes the index of one label, and its writes.
  have hupdate : ∀ (target : ν) (index : Index) (pairs : List Entry), index = .ofPairs pairs →
      Function.update store target index label =
        .ofPairs (Function.update writes target pairs label) := by
    intro target index pairs hindex
    by_cases hlabel : label = target
    · rw [hlabel, Function.update_self, Function.update_self, hindex]
    · rw [Function.update_of_ne hlabel, Function.update_of_ne hlabel, h]
  cases op with
  | new target => exact hupdate target _ _ rfl
  | insert target span record =>
    refine hupdate target _ _ ?_
    rw [h target, ← insertAll_ofPairs]
    rfl
  | extend target pairs =>
    refine hupdate target _ _ ?_
    rw [h target, insertAll_ofPairs]
  | ofPairs target pairs => exact hupdate target _ _ rfl
  | combine target first second =>
    refine hupdate target _ _ ?_
    rw [h first, h second, combine_ofPairs]

/-- After any operations, every index is that of its writes. -/
theorem run_eq_ofPairs (ops : List (Operation ν)) (label : ν) :
    run ops label = .ofPairs (writes ops label) := by
  have hfold : ∀ (store : ν → Index) (before : ν → List Entry),
      (∀ label, store label = .ofPairs (before label)) →
      ops.foldl apply store label = .ofPairs (ops.foldl log before label) := by
    induction ops with
    | nil => exact fun store before h => h label
    | cons op ops ih => exact fun store before h => ih _ _ (apply_eq_ofPairs h op)
  exact hfold _ _ fun _ => rfl

end Operation

/-! ## Finite maps -/

/-- The index is the finite map that the writes make up, and lists it in order. -/
structure Represents (index : Index) (writes : List Entry) : Prop where
  /-- The entries are listed in strictly ascending order, by bytes of the file, then by line and
  column of the start, then by line and column of the end. -/
  ascending : index.entries.Pairwise fun a b => a.1.sortKey < b.1.sortKey
  /-- No span is listed twice. -/
  nodup : (index.entries.map Prod.fst).Nodup
  /-- The last write to a span is found there. -/
  get? : ∀ s, index.get? s = Entry.lastAt? writes s
  /-- A further write hands out the last one before it. -/
  displaced : ∀ s record, (index.exchange s record).1 = Entry.lastAt? writes s
  /-- The entries are the last writes to each span, sorted. -/
  entries : index.entries = Entry.sort (Entry.lastOfEach writes)
  /-- The size is the number of different spans that were written. -/
  size : index.size = (writes.map Prod.fst).dedup.length

theorem represents_ofPairs (pairs : List Entry) : (ofPairs pairs).Represents pairs where
  ascending := (ofPairs pairs).sorted.imp Span.sortKey_lt_iff.mpr
  nodup := spans_nodup _
  get? := get?_ofPairs_eq_lastAt? pairs
  displaced s _ := get?_ofPairs_eq_lastAt? pairs s
  entries := entries_ofPairs pairs
  size := size_ofPairs pairs

/-- Indices are finite maps in a canonical form. After any operations on any number of indices, each
index represents the writes that went into it, where a union has the records of its first index and
then those of its second; indices are equal exactly when the same records are found in them; the
entries of an index, in whatever order, build it again; and the index of a list has the last entry
at each span, sorted. -/
theorem run_refines_finite_map {ν : Type} [DecidableEq ν] :
    (∀ (ops : List (Operation ν)) label,
      (Operation.run ops label).Represents (Operation.writes ops label)) ∧
    (∀ (a b : Index) s, (a.combine b).get? s = (a.get? s).or (b.get? s)) ∧
    (∀ a b : Index, a = b ↔ ∀ s, a.get? s = b.get? s) ∧
    (∀ (index : Index) pairs, pairs.Perm index.entries → ofPairs pairs = index) ∧
    (∀ pairs, (ofPairs pairs).entries = Entry.sort (Entry.lastOfEach pairs)) := by
  refine ⟨fun ops label => ?_, get?_combine, fun a b => ⟨fun h s => h ▸ rfl, ext_get?⟩,
    fun index pairs => ofPairs_of_perm, entries_ofPairs⟩
  rw [Operation.run_eq_ofPairs]
  exact represents_ofPairs _

/-- One of two names is written twice, and the index is then united with another that has the name
too. The later write counts, and the entries build the index again in either order. -/
theorem run_overwritten :
    let s := Span.onLine "z.hs" 1 1 1
    let s' := Span.onLine "é.hs" 1 1 1
    let x : Record := ⟨"x", none, none, .value, none, .known s, .binding⟩
    let y : Record := ⟨"y", none, none, .value, none, .known s', .reference⟩
    let ops : List (Operation Bool) :=
      [.insert true s' x, .insert true s x, .insert true s' y, .ofPairs false [(s', x)],
        .combine false true false]
    let index := Operation.run ops false
    index.get? s' = some y ∧ index.size = 2 ∧ index.entries.map Prod.fst = [s, s'] ∧
      ofPairs [(s', y), (s, x)] = index ∧ index.Represents (Operation.writes ops false) := by
  intro s s' x y ops index
  obtain ⟨hruns, -, -, hperm, -⟩ := @run_refines_finite_map Bool _
  have hindex := hruns ops false
  refine ⟨?_, ?_, ?_, hperm _ _ ?_, hindex⟩
  · rw [hindex.get?]
    decide +kernel
  · rw [hindex.size]
    decide +kernel
  · decide +kernel
  · decide +kernel

end Index

end Xref
