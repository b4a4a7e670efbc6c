import Mathlib.Algebra.Group.Int.Defs
import Mathlib.Algebra.Group.Nat.Defs
import Mathlib.Data.List.Infix
import Xref.Query.Highlight

/-!
# Arrows outside brackets

The scan of a type goes through its text once, with the number of open brackets and the character
before. One step of it either finds an arrow or counts a bracket (`hasOuterArrowFrom_cons`). By
induction on the text, the number of open brackets is the balance of what has been read, so the scan
finds the arrows before which as many brackets are closed as opened (`hasOuterArrowFrom_iff`), and
may be taken up anywhere in the text (`hasOuterArrowFrom_append`).

A group in brackets is read with at least one bracket open, so no arrow in it is found, and it
leaves the scan as an empty group would (`hasOuterArrowFrom_group`).
-/

namespace Xref

/-! ## Brackets -/

namespace Brackets

/-- The character opens a group. -/
def isOpening (c : Char) : Bool :=
  c = '(' || c = '['

/-- The character closes a group. -/
def isClosing (c : Char) : Bool :=
  c = ')' || c = ']'

/-- The number of brackets. -/
def count (cs : List Char) : ℕ :=
  cs.countP fun c => isOpening c || isClosing c

/-- How many more brackets are opened than closed. -/
def balance (cs : List Char) : ℤ :=
  cs.countP isOpening - cs.countP isClosing

/-- As many brackets are opened as closed, and nowhere are more closed than were opened before. -/
structure Balanced (cs : List Char) : Prop where
  closed : balance cs = 0
  nonneg : ∀ start, start <+: cs → 0 ≤ balance start

instance (cs : List Char) : Decidable (Balanced cs) :=
  decidable_of_iff (balance cs = 0 ∧ ∀ start ∈ cs.inits, 0 ≤ balance start)
    ⟨fun h => ⟨h.1, fun start hstart => h.2 start ((List.mem_inits start cs).mpr hstart)⟩,
      fun h => ⟨h.closed, fun start hstart => h.nonneg start ((List.mem_inits start cs).mp hstart)⟩⟩

theorem balance_nil : balance [] = 0 :=
  rfl

theorem balance_append (xs ys : List Char) : balance (xs ++ ys) = balance xs + balance ys := by
  unfold balance
  rw [List.countP_append, List.countP_append]
  omega

theorem balance_cons (c : Char) (cs : List Char) : balance (c :: cs) = balance [c] + balance cs :=
  balance_append [c] cs

theorem isOpening_iff {c : Char} : isOpening c = true ↔ c = '(' ∨ c = '[' := by
  simp [isOpening]

theorem isClosing_iff {c : Char} : isClosing c = true ↔ c = ')' ∨ c = ']' := by
  simp [isClosing]

theorem balance_of_isOpening {c : Char} (h : isOpening c = true) : balance [c] = 1 := by
  rcases isOpening_iff.mp h with rfl | rfl <;> rfl

theorem balance_of_isClosing {c : Char} (h : isClosing c = true) : balance [c] = -1 := by
  rcases isClosing_iff.mp h with rfl | rfl <;> rfl

theorem balance_of_not_bracket {c : Char} (ho : ¬ isOpening c = true) (hc : ¬ isClosing c = true) :
    balance [c] = 0 := by
  simp [balance, ho, hc]

theorem balance_eq_zero_iff {cs : List Char} :
    balance cs = 0 ↔ cs.countP isOpening = cs.countP isClosing := by
  unfold balance
  omega

/-- Nowhere in a text are more brackets open, or closed in advance, than it has. -/
theorem balance_take_bounds (cs : List Char) (n : ℕ) :
    -(count cs : ℤ) ≤ balance (cs.take n) ∧ balance (cs.take n) ≤ count cs := by
  have hopening : (cs.take n).countP isOpening ≤ count (cs.take n) :=
    List.countP_mono_left fun c _ hc => by simp [hc]
  have hclosing : (cs.take n).countP isClosing ≤ count (cs.take n) :=
    List.countP_mono_left fun c _ hc => by simp [hc]
  have hcount : count (cs.take n) ≤ count cs := (List.take_sublist n cs).countP_le
  unfold balance
  omega

end Brackets

open Brackets

/-! ## The scan -/

/-- One step of the scan: it stops at an arrow outside brackets, and else goes on after the
character, with one bracket more or less if it is one. -/
theorem hasOuterArrowFrom_cons (depth : ℤ) (last c : Char) (rest : List Char) :
    hasOuterArrowFrom depth last (c :: rest) =
      (decide (c = '>' ∧ last = '-' ∧ depth = 0) ||
        hasOuterArrowFrom (depth + balance [c]) c rest) := by
  rw [hasOuterArrowFrom]
  by_cases ho : isOpening c = true
  · have hne : c ≠ '>' := by rintro rfl; cases ho
    rw [if_pos (isOpening_iff.mp ho), balance_of_isOpening ho, decide_eq_false (fun h => hne h.1),
      Bool.false_or]
  · rw [if_neg (mt isOpening_iff.mpr ho)]
    by_cases hc : isClosing c = true
    · have hne : c ≠ '>' := by rintro rfl; cases hc
      rw [if_pos (isClosing_iff.mp hc), balance_of_isClosing hc,
        decide_eq_false (fun h => hne h.1), Bool.false_or]
      rfl
    · rw [if_neg (mt isClosing_iff.mpr hc), balance_of_not_bracket ho hc, Int.add_zero]
      split
      · next harrow => rw [decide_eq_true harrow, Bool.true_or]
      · next harrow => rw [decide_eq_false harrow, Bool.false_or]

/-- Only at the second character of an arrow can the scan stop. -/
theorem hasOuterArrowFrom_cons_of_ne {c : Char} (h : c ≠ '>') (depth : ℤ) (last : Char)
    (rest : List Char) :
    hasOuterArrowFrom depth last (c :: rest) = hasOuterArrowFrom (depth + balance [c]) c rest := by
  rw [hasOuterArrowFrom_cons, decide_eq_false (fun harrow => h harrow.1), Bool.false_or]

/-- The scan finds an arrow exactly when, before the second character of some arrow, the brackets
that were open are closed. -/
theorem hasOuterArrowFrom_iff (depth : ℤ) (last : Char) (cs : List Char) :
    hasOuterArrowFrom depth last cs = true ↔
      ∃ i, (last :: cs)[i]? = some '-' ∧ cs[i]? = some '>' ∧ depth + balance (cs.take i) = 0 := by
  induction cs generalizing depth last with
  | nil => simp [hasOuterArrowFrom]
  | cons c rest ih =>
    rw [hasOuterArrowFrom_cons, Bool.or_eq_true, decide_eq_true_iff, ih]
    -- An arrow here is at place 0, one found later is one place further on in this text.
    have hlater : ∀ i, depth + balance ((c :: rest).take (i + 1)) =
        depth + balance [c] + balance (rest.take i) := by
      intro i
      rw [List.take_succ_cons, balance_cons]
      omega
    constructor
    · rintro (⟨rfl, rfl, hdepth⟩ | ⟨i, hdash, hangle, hdepth⟩)
      · exact ⟨0, rfl, rfl, by simpa [balance_nil] using hdepth⟩
      · exact ⟨i + 1, hdash, hangle, (hlater i).trans hdepth⟩
    · rintro ⟨i, hdash, hangle, hdepth⟩
      cases i with
      | zero =>
        refine .inl ⟨Option.some.inj hangle, Option.some.inj hdash, ?_⟩
        simpa [balance_nil] using hdepth
      | succ i => exact .inr ⟨i, hdash, hangle, (hlater i).symm.trans hdepth⟩

/-- The scan of a text goes on after a part of it with the brackets and the last character of that
part. -/
theorem hasOuterArrowFrom_append (depth : ℤ) (last : Char) (xs ys : List Char) :
    hasOuterArrowFrom depth last (xs ++ ys) =
      (hasOuterArrowFrom depth last xs ||
        hasOuterArrowFrom (depth + balance xs) (xs.getLastD last) ys) := by
  induction xs generalizing depth last with
  | nil => rw [List.nil_append, balance_nil, Int.add_zero]; rfl
  | cons c xs ih =>
    rw [List.cons_append, hasOuterArrowFrom_cons, hasOuterArrowFrom_cons, ih, Bool.or_assoc,
      List.getLastD_cons, balance_cons c xs, Int.add_assoc]

/-- A balanced group is skipped, from any depth that is not negative. -/
theorem hasOuterArrowFrom_group {opening closing : Char} (ho : isOpening opening = true)
    (hc : isClosing closing = true) {depth : ℤ} (hdepth : 0 ≤ depth) {group : List Char}
    (hgroup : Balanced group) (last : Char) (rest : List Char) :
    hasOuterArrowFrom depth last (opening :: (group ++ closing :: rest)) =
      hasOuterArrowFrom depth closing rest := by
  have hinside : ∀ before, hasOuterArrowFrom (depth + 1) before group = false := by
    intro before
    rw [Bool.eq_false_iff, ne_eq, hasOuterArrowFrom_iff]
    rintro ⟨i, -, -, hzero⟩
    have hnonneg := hgroup.nonneg _ (List.take_prefix i group)
    omega
  have hopening : opening ≠ '>' := by rintro rfl; cases ho
  have hclosing : closing ≠ '>' := by rintro rfl; cases hc
  have hback : depth + 1 + balance group + balance [closing] = depth := by
    rw [hgroup.closed, balance_of_isClosing hc]
    omega
  rw [hasOuterArrowFrom_cons_of_ne hopening, balance_of_isOpening ho, hasOuterArrowFrom_append,
    hinside, Bool.false_or, hasOuterArrowFrom_cons_of_ne hclosing, hback]

/-! ## Types of functions -/

/-- There is an arrow outside brackets exactly when somewhere as many brackets are closed as opened
before the second character of an arrow. -/
theorem hasOuterArrow_iff (type : String) :
    hasOuterArrow type = true ↔
      ∃ i, 1 ≤ i ∧ type.toList[i - 1]? = some '-' ∧ type.toList[i]? = some '>' ∧
        (type.toList.take i).countP isOpening = (type.toList.take i).countP isClosing := by
  unfold hasOuterArrow
  rw [hasOuterArrowFrom_iff]
  constructor
  · rintro ⟨i, hdash, hangle, hbalance⟩
    cases i with
    | zero => cases hdash
    | succ i =>
      rw [Int.zero_add, balance_eq_zero_iff] at hbalance
      exact ⟨i + 1, by omega, hdash, hangle, hbalance⟩
  · rintro ⟨i, hpos, hdash, hangle, hcounts⟩
    obtain ⟨j, rfl⟩ : ∃ j, i = j + 1 := ⟨i - 1, by omega⟩
    refine ⟨j + 1, hdash, hangle, ?_⟩
    rw [Int.zero_add, balance_eq_zero_iff]
    exact hcounts

/-- What stands in brackets makes no difference. -/
theorem hasOuterArrow_group {opening closing : Char} (ho : isOpening opening = true)
    (hc : isClosing closing = true) {before group : String} (hbefore : 0 ≤ balance before.toList)
    (hgroup : Balanced group.toList) (after : String) :
    hasOuterArrow
        (before ++ String.singleton opening ++ group ++ String.singleton closing ++ after) =
      hasOuterArrow (before ++ String.singleton opening ++ String.singleton closing ++ after) := by
  have hempty : Balanced [] := by decide
  have hskip : ∀ {cs : List Char}, Balanced cs →
      hasOuterArrowFrom 0 ' ' (before.toList ++ opening :: (cs ++ closing :: after.toList)) =
        (hasOuterArrowFrom 0 ' ' before.toList ||
          hasOuterArrowFrom (balance before.toList) closing after.toList) := by
    intro cs hcs
    rw [hasOuterArrowFrom_append, Int.zero_add, hasOuterArrowFrom_group ho hc hbefore hcs]
  unfold hasOuterArrow
  have hwhole := (hskip hgroup).trans (hskip hempty).symm
  simpa [String.toList_append] using hwhole

theorem Record.highlightKind_eq_function_iff {r : Record} :
    r.highlightKind = .function ↔
      r.space = .value ∧ ∃ type, r.type = some type ∧ hasOuterArrow type = true := by
  unfold highlightKind
  cases r.space with
  | value =>
    cases r.type with
    | none => simp
    | some type => simp
  | dataConstructor => simp
  | typeVariable => simp
  | typeOrClass => simp

/-- A value is highlighted as a function for an arrow outside all brackets, and for nothing else. A
type has such an arrow exactly when in some place as many brackets are closed as opened before the
second character of an arrow. So a group in brackets can be emptied, in any place where no more
brackets are closed than opened. Fewer than `2^31` brackets are counted without leaving the numbers
of 32 bits. -/
theorem function_iff_outer_arrow :
    (∀ type : String, hasOuterArrow type = true ↔
      ∃ i, 1 ≤ i ∧ type.toList[i - 1]? = some '-' ∧ type.toList[i]? = some '>' ∧
        (type.toList.take i).countP isOpening = (type.toList.take i).countP isClosing) ∧
    (∀ r : Record, r.highlightKind = .function ↔
      r.space = .value ∧ ∃ type, r.type = some type ∧ hasOuterArrow type = true) ∧
    (∀ p b s : String, 0 ≤ balance p.toList → Balanced b.toList →
      hasOuterArrow (p ++ "(" ++ b ++ ")" ++ s) = hasOuterArrow (p ++ "()" ++ s) ∧
      hasOuterArrow (p ++ "[" ++ b ++ "]" ++ s) = hasOuterArrow (p ++ "[]" ++ s)) ∧
    (∀ type : String, count type.toList < 2 ^ 31 → ∀ i,
      -2 ^ 31 < balance (type.toList.take i) ∧ balance (type.toList.take i) < 2 ^ 31) := by
  refine ⟨hasOuterArrow_iff, fun r => Record.highlightKind_eq_function_iff,
    fun p b s hp hb => ⟨?_, ?_⟩, fun type hcount i => ?_⟩
  · have hgroup := hasOuterArrow_group (show isOpening '(' = true by decide)
      (show isClosing ')' = true by decide) hp hb s
    simpa [String.append_assoc] using hgroup
  · have hgroup := hasOuterArrow_group (show isOpening '[' = true by decide)
      (show isClosing ']' = true by decide) hp hb s
    simpa [String.append_assoc] using hgroup
  · have hbounds := balance_take_bounds type.toList i
    omega

/-- After `)(` a group can be emptied, though the first bracket is closed before any is opened. Its
arrow makes no function; an arrow after it does. -/
theorem function_iff_outer_arrow_after_group :
    0 ≤ balance ")(".toList ∧ Balanced "a -> [b]".toList ∧ count ")((a -> [b])".toList < 2 ^ 31 ∧
      hasOuterArrow ")((a -> [b])" = false ∧ hasOuterArrow ")((a -> [b]) -> c" = true ∧
      balance (")((a -> [b])".toList.take 9) < 2 ^ 31 := by
  obtain ⟨hplaces, -, hgroups, hwords⟩ := function_iff_outer_arrow
  have hbefore : 0 ≤ balance ")(".toList := by decide
  have hgroup : Balanced "a -> [b]".toList := by decide
  have hcount : count ")((a -> [b])".toList < 2 ^ 31 := by decide
  refine ⟨hbefore, hgroup, hcount, ?_, ?_, (hwords _ hcount 9).2⟩
  · exact (hgroups ")(" "a -> [b]" "" hbefore hgroup).1.trans (by decide)
  · exact (hplaces _).mpr ⟨14, by decide⟩

end Xref
