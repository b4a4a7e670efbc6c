import Mathlib.Data.List.Forall2
import Xref.Index.Basic

/-!
# Queries that answer entry by entry

What an editor shows all over a file is listed entry by entry: a hint, a highlight or nothing. Such
a list has one answer for each of certain entries, in their order, and no others
(`Index.forall₂_filterMap`).
-/

namespace Xref.Index

/-- If exactly the entries that are kept have an answer, the answers belong to them one by one. -/
theorem forall₂_filterMap {β : Type} {answer? : Entry → Option β} {Keep : Entry → Prop}
    [DecidablePred Keep] {Answers : Entry → β → Prop} (index : Index)
    (hsome : ∀ e ∈ index.entries, Keep e → ∃ b, answer? e = some b ∧ Answers e b)
    (hnone : ∀ e ∈ index.entries, ¬ Keep e → answer? e = none) :
    List.Forall₂ Answers (index.entries.filter Keep) (index.entries.filterMap answer?) := by
  generalize index.entries = entries at hsome hnone
  induction entries with
  | nil => exact .nil
  | cons e rest ih =>
    have hrest := ih (fun x hx => hsome x (List.mem_cons_of_mem e hx))
      (fun x hx => hnone x (List.mem_cons_of_mem e hx))
    by_cases hkeep : Keep e
    · obtain ⟨b, hb, hanswers⟩ := hsome e List.mem_cons_self hkeep
      rw [List.filter_cons_of_pos (by simpa using hkeep), List.filterMap_cons_some hb]
      exact .cons hanswers hrest
    · rw [List.filter_cons_of_neg (by simpa using hkeep),
        List.filterMap_cons_none (hnone e List.mem_cons_self hkeep)]
      exact hrest

end Xref.Index
