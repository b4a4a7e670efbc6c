import Xref.Proofs.Index.Union

/-!
# The algebra of unions

Unions of indices are a band with an identity: union is associative, an index united with itself is
that index, and the empty index changes nothing. The band is left-regular, since what the first
index says stands: uniting with it again adds nothing. Two indices can be exchanged in a union
exactly if they agree wherever both have a record.

A union is computed in one of two ways, by the sizes of the indices, so the two sides of each law
may be computed in different ways. `Index.get?_combine` holds for both, and the laws are checked
span by span.
-/

namespace Xref.Index

theorem get?_empty (s : Span) : empty.get? s = none :=
  rfl

theorem combine_assoc (a b c : Index) : (a.combine b).combine c = a.combine (b.combine c) := by
  refine ext_get? fun s => ?_
  rw [get?_combine, get?_combine, get?_combine, get?_combine, Option.or_assoc]

theorem combine_self (a : Index) : a.combine a = a := by
  refine ext_get? fun s => ?_
  rw [get?_combine, Option.or_self]

theorem combine_empty (a : Index) : a.combine empty = a := by
  refine ext_get? fun s => ?_
  rw [get?_combine, get?_empty, Option.or_none]

theorem empty_combine (a : Index) : empty.combine a = a := by
  refine ext_get? fun s => ?_
  rw [get?_combine, get?_empty, Option.none_or]

/-- What the first index says stands, so uniting with it again adds nothing. -/
theorem combine_combine_self (a b : Index) : (a.combine b).combine a = a.combine b := by
  refine ext_get? fun s => ?_
  rw [get?_combine, get?_combine]
  cases a.get? s with
  | some r => rfl
  | none => rw [Option.none_or, Option.or_none]

/-- The indices have the same record at every span that is in both. -/
def Agree (a b : Index) : Prop :=
  ∀ s, a.contains s = true → b.contains s = true → a.get? s = b.get? s

/-- The order of two indices in a union matters only where they disagree. -/
theorem combine_comm_iff {a b : Index} : a.combine b = b.combine a ↔ a.Agree b := by
  constructor
  · intro h s ha hb
    have hs : (a.get? s).or (b.get? s) = (b.get? s).or (a.get? s) := by
      rw [← get?_combine, h, get?_combine]
    rwa [Option.or_of_isSome ha, Option.or_of_isSome hb] at hs
  · intro h
    refine ext_get? fun s => ?_
    rw [get?_combine, get?_combine]
    cases ha : a.get? s with
    | none => rw [Option.none_or, Option.or_none]
    | some r =>
      cases hb : b.get? s with
      | none => rfl
      | some r' =>
        have hagree := h s (by rw [contains, ha]; rfl) (by rw [contains, hb]; rfl)
        rw [Option.some_or, Option.some_or, ← ha, ← hb, hagree]

/-- Indices under union are a left-regular band with an identity, in which exactly the indices that
agree with each other commute. The laws are equations between indices, and so between their lists of
entries. -/
theorem combine_leftRegularBand :
    (∀ a b c : Index, (a.combine b).combine c = a.combine (b.combine c)) ∧
    (∀ a : Index, a.combine a = a) ∧
    (∀ a : Index, a.combine empty = a ∧ empty.combine a = a) ∧
    (∀ a b : Index, (a.combine b).combine a = a.combine b) ∧
    (∀ a b : Index, a.combine b = b.combine a ↔ a.Agree b) ∧
    (∀ a b : Index, a = b ↔ a.entries = b.entries) :=
  ⟨combine_assoc, combine_self, fun a => ⟨combine_empty a, empty_combine a⟩, combine_combine_self,
    fun _ _ => combine_comm_iff, fun _ _ => entries_inj.symm⟩

end Xref.Index
