import Mathlib.Data.List.TakeWhile

/-!
# Parts of a text that end at a delimiter

A text is put together from parts with characters between them. If a part is made of characters of
one kind, and the character after it is of another kind, the part is known from the text, and so is
what follows (`append_cons_inj`). The same is true from the end of the text
(`append_cons_inj_right`).
-/

namespace Xref

variable {kind : Char → Bool} {xs ys us vs : List Char} {a b : Char}

/-- The first part is known if it is of one kind and ends at a character of another. -/
theorem append_cons_inj (hxs : ∀ c ∈ xs, kind c = true) (hys : ∀ c ∈ ys, kind c = true)
    (ha : kind a = false) (hb : kind b = false) (h : xs ++ a :: us = ys ++ b :: vs) :
    xs = ys ∧ a = b ∧ us = vs := by
  have htake : ∀ {zs ws : List Char} {d : Char}, (∀ c ∈ zs, kind c = true) → kind d = false →
      (zs ++ d :: ws).takeWhile kind = zs := by
    intro zs ws d hzs hd
    rw [List.takeWhile_append_of_pos hzs, List.takeWhile_cons_of_neg (by simp [hd]),
      List.append_nil]
  have hfirst : xs = ys := by
    calc xs = (xs ++ a :: us).takeWhile kind := (htake hxs ha).symm
      _ = (ys ++ b :: vs).takeWhile kind := by rw [h]
      _ = ys := htake hys hb
  rw [hfirst] at h
  exact ⟨hfirst, List.cons.inj (List.append_cancel_left h)⟩

/-- The last part is known if it is of one kind and starts after a character of another. -/
theorem append_cons_inj_right (hus : ∀ c ∈ us, kind c = true) (hvs : ∀ c ∈ vs, kind c = true)
    (ha : kind a = false) (hb : kind b = false) (h : xs ++ a :: us = ys ++ b :: vs) :
    xs = ys ∧ a = b ∧ us = vs := by
  have hreverse : us.reverse ++ a :: xs.reverse = vs.reverse ++ b :: ys.reverse := by
    simpa using congrArg List.reverse h
  obtain ⟨hlast, hab, hfirst⟩ :=
    append_cons_inj (fun c hc => hus c (List.mem_reverse.mp hc))
      (fun c hc => hvs c (List.mem_reverse.mp hc)) ha hb hreverse
  exact ⟨List.reverse_inj.mp hfirst, hab, List.reverse_inj.mp hlast⟩

end Xref
