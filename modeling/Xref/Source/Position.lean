/-!
# Positions in source text

A position is a line and a column, each a 32-bit word, as the front end counts them. Positions are
ordered by line, then by column. Distances between coordinates stop at zero, and the coordinate
after the largest one is the largest one again, so no operation here wraps around.
-/

namespace Xref

/-- A line or column number. -/
abbrev Coordinate := UInt32

namespace Coordinate

/-- The largest coordinate. -/
def largest : Coordinate := 4294967295

/-- The distance from `b` up to `a`, and zero when `a` comes first. -/
def minus (a b : Coordinate) : Coordinate :=
  if b ≤ a then a - b else 0

/-- The next coordinate; the largest one is its own successor. -/
def next (a : Coordinate) : Coordinate :=
  if a = largest then a else a + 1

/-- Decimal text, without leading zeros. -/
def text (a : Coordinate) : String :=
  Nat.repr a.toNat

/-- The coordinate with this number, unless it is too large for one. -/
def ofNat? (n : Nat) : Option Coordinate :=
  if n ≤ 4294967295 then some (UInt32.ofNat n) else none

/-- `minus` is truncated subtraction of numbers. -/
theorem toNat_minus (a b : Coordinate) : (minus a b).toNat = a.toNat - b.toNat := by
  unfold minus
  split
  · next h => exact UInt32.toNat_sub_of_le a b h
  · next h =>
    have : a.toNat < b.toNat := by simpa [UInt32.not_le, UInt32.lt_iff_toNat_lt] using h
    simp; omega

/-- `next` is addition of one, capped at the largest coordinate. -/
theorem toNat_next (a : Coordinate) : (next a).toNat = min (a.toNat + 1) 4294967295 := by
  have hlt := a.toNat_lt
  unfold next
  split
  · next h => subst h; decide
  · next h =>
    have hne : a.toNat ≠ 4294967295 := fun e => h (UInt32.toNat_inj.mp (by simpa [largest] using e))
    rw [UInt32.toNat_add]
    simp only [UInt32.toNat_one]
    omega

/-- Reading the number of a coordinate gives the coordinate. -/
@[simp]
theorem ofNat?_toNat (a : Coordinate) : ofNat? a.toNat = some a := by
  have := a.toNat_lt
  rw [ofNat?, if_pos (by omega)]
  simp

end Coordinate

/-- A line and a column. -/
structure Position where
  line : Coordinate
  col : Coordinate
deriving DecidableEq

namespace Position

/-- The zero position. -/
def origin : Position := ⟨0, 0⟩

/-- Positions are ordered by line, then by column. -/
instance : LT Position :=
  ⟨fun a b => a.line < b.line ∨ (a.line = b.line ∧ a.col < b.col)⟩

instance : LE Position :=
  ⟨fun a b => a.line < b.line ∨ (a.line = b.line ∧ a.col ≤ b.col)⟩

instance (a b : Position) : Decidable (a < b) :=
  inferInstanceAs (Decidable (a.line < b.line ∨ (a.line = b.line ∧ a.col < b.col)))

instance (a b : Position) : Decidable (a ≤ b) :=
  inferInstanceAs (Decidable (a.line < b.line ∨ (a.line = b.line ∧ a.col ≤ b.col)))

/-- The order on positions, on numbers. -/
theorem lt_iff {a b : Position} :
    a < b ↔ a.line.toNat < b.line.toNat ∨
      (a.line.toNat = b.line.toNat ∧ a.col.toNat < b.col.toNat) := by
  show (a.line < b.line ∨ (a.line = b.line ∧ a.col < b.col)) ↔ _
  rw [UInt32.lt_iff_toNat_lt, UInt32.lt_iff_toNat_lt, ← UInt32.toNat_inj]

/-- The weak order on positions, on numbers. -/
theorem le_iff {a b : Position} :
    a ≤ b ↔ a.line.toNat < b.line.toNat ∨
      (a.line.toNat = b.line.toNat ∧ a.col.toNat ≤ b.col.toNat) := by
  show (a.line < b.line ∨ (a.line = b.line ∧ a.col ≤ b.col)) ↔ _
  rw [UInt32.lt_iff_toNat_lt, UInt32.le_iff_toNat_le, ← UInt32.toNat_inj]

/-- Positions with equal numbers are equal. -/
theorem eq_iff {a b : Position} :
    a = b ↔ a.line.toNat = b.line.toNat ∧ a.col.toNat = b.col.toNat := by
  cases a; cases b
  simp [UInt32.toNat_inj]

theorem lt_irrefl (a : Position) : ¬ a < a := by
  rw [lt_iff]; omega

theorem lt_trans {a b c : Position} (hab : a < b) (hbc : b < c) : a < c := by
  rw [lt_iff] at *; omega

/-- Any two positions are comparable. -/
theorem lt_trichotomy (a b : Position) : a < b ∨ a = b ∨ b < a := by
  rw [lt_iff, lt_iff, eq_iff]; omega

theorem not_lt {a b : Position} : ¬ a < b ↔ b ≤ a := by
  rw [lt_iff, le_iff]; omega

/-- Where two positions stand in the order. -/
instance : Ord Position := ⟨fun a b => compareOfLessAndEq a b⟩

/-- `stop` as seen from `start`: the lines between them and, on one line, the columns between them;
on a later line the column of `stop`. -/
def since (stop start : Position) : Position :=
  let lines := stop.line.minus start.line
  ⟨lines, if lines = 0 then stop.col.minus start.col else stop.col⟩

/-- The text `line:col`. -/
def text (p : Position) : String :=
  p.line.text ++ ":" ++ p.col.text

end Position

end Xref
