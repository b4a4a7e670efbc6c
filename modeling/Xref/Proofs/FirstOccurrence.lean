import Mathlib.Data.List.Basic
import Mathlib.Data.List.Nodup

/-!
# First occurrences

Results are kept once for each key, in the order in which the keys come up: the files of a batch by
their paths, the targets of a name by their spans. One more key goes to the end if it is new, and
changes nothing if it is not (`InFirstOrder.concat`).
-/

namespace Xref

/-- The keys are the members of a list, each of them once, in the order of their first
occurrences. -/
structure InFirstOrder {α : Type} [DecidableEq α] (keys list : List α) : Prop where
  nodup : keys.Nodup
  mem_iff : ∀ a, a ∈ keys ↔ a ∈ list
  ordered : keys.Pairwise fun a b => list.idxOf a < list.idxOf b

namespace InFirstOrder

variable {α : Type} [DecidableEq α] {keys list : List α}

/-- The first occurrences stay where they are when the list gets longer. -/
theorem ordered_append (h : InFirstOrder keys list) (more : List α) :
    keys.Pairwise fun a b => (list ++ more).idxOf a < (list ++ more).idxOf b := by
  refine h.ordered.imp_of_mem fun {a b} ha hb hab => ?_
  rw [List.idxOf_append_of_mem ((h.mem_iff a).mp ha), List.idxOf_append_of_mem ((h.mem_iff b).mp hb)]
  exact hab

/-- One more member is one more key, unless it has occurred. -/
theorem concat (h : InFirstOrder keys list) (a : α) :
    InFirstOrder (if a ∈ keys then keys else keys ++ [a]) (list ++ [a]) := by
  by_cases ha : a ∈ keys
  · rw [if_pos ha]
    refine ⟨h.nodup, fun b => ?_, h.ordered_append [a]⟩
    rw [List.mem_append, List.mem_singleton, ← h.mem_iff]
    exact ⟨.inl, fun hb => hb.elim id fun hba => hba ▸ ha⟩
  · rw [if_neg ha]
    have hlist : a ∉ list := fun hmem => ha ((h.mem_iff a).mpr hmem)
    refine ⟨List.nodup_append.mpr ⟨h.nodup, List.nodup_singleton a, ?_⟩, fun b => ?_,
      List.pairwise_append.mpr ⟨h.ordered_append [a], List.pairwise_singleton _ _, ?_⟩⟩
    · rintro b hb c hc rfl
      exact ha (List.mem_singleton.mp hc ▸ hb)
    · rw [List.mem_append, List.mem_append, h.mem_iff]
    · -- The new key occurs for the first time after the end of the old list.
      intro b hb c hc
      have hmem := (h.mem_iff b).mp hb
      rw [List.mem_singleton.mp hc, List.idxOf_append_of_mem hmem,
        List.idxOf_append_of_notMem hlist]
      have hlt := List.idxOf_lt_length_of_mem hmem
      omega

end InFirstOrder

end Xref
