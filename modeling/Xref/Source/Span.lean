import Xref.Source.Position

/-!
# Spans of source text

A span names a file and two positions in it, both of which belong to it. Spans are ordered by file
name, then by start, then by end: the order in which an index lists its entries. The order is total
(`Span.lt_trichotomy`) and strict.
-/

namespace Xref

/-- A stretch of one file from `start` to `stop`, both included. -/
structure Span where
  file : String
  start : Position
  stop : Position
deriving DecidableEq

namespace Span

/-- A span within one line. -/
def onLine (file : String) (line first last : Coordinate) : Span :=
  ⟨file, ⟨line, first⟩, ⟨line, last⟩⟩

/-- Spans are ordered by file, by code points, then by start, then by end. -/
instance : LT Span :=
  ⟨fun a b => a.file < b.file ∨ (a.file = b.file ∧
    (a.start < b.start ∨ (a.start = b.start ∧ a.stop < b.stop)))⟩

instance (a b : Span) : Decidable (a < b) :=
  inferInstanceAs (Decidable (a.file < b.file ∨ (a.file = b.file ∧
    (a.start < b.start ∨ (a.start = b.start ∧ a.stop < b.stop)))))

theorem lt_def {a b : Span} :
    a < b ↔ a.file < b.file ∨ (a.file = b.file ∧
      (a.start < b.start ∨ (a.start = b.start ∧ a.stop < b.stop))) :=
  Iff.rfl

theorem lt_irrefl (a : Span) : ¬ a < a := by
  rw [lt_def]
  rintro (h | ⟨-, h | ⟨-, h⟩⟩)
  · exact String.lt_irrefl _ h
  · exact Position.lt_irrefl _ h
  · exact Position.lt_irrefl _ h

theorem lt_trans {a b c : Span} (hab : a < b) (hbc : b < c) : a < c := by
  rw [lt_def] at *
  rcases hab with hf | ⟨hf, hab⟩
  · rcases hbc with hf' | ⟨hf', -⟩
    · exact .inl (String.lt_trans hf hf')
    · exact .inl (hf' ▸ hf)
  · rcases hbc with hf' | ⟨hf', hbc⟩
    · exact .inl (hf ▸ hf')
    · refine .inr ⟨hf.trans hf', ?_⟩
      rcases hab with hs | ⟨hs, ht⟩
      · rcases hbc with hs' | ⟨hs', -⟩
        · exact .inl (Position.lt_trans hs hs')
        · exact .inl (hs' ▸ hs)
      · rcases hbc with hs' | ⟨hs', ht'⟩
        · exact .inl (hs ▸ hs')
        · exact .inr ⟨hs.trans hs', Position.lt_trans ht ht'⟩

theorem lt_asymm {a b : Span} (hab : a < b) : ¬ b < a :=
  fun hba => lt_irrefl a (lt_trans hab hba)

theorem ne_of_lt {a b : Span} (h : a < b) : a ≠ b :=
  fun e => lt_irrefl b (e ▸ h)

/-- Any two file names are comparable. -/
theorem file_trichotomy (s t : String) : s < t ∨ s = t ∨ t < s := by
  by_cases hst : s < t
  · exact .inl hst
  · by_cases hts : t < s
    · exact .inr (.inr hts)
    · exact .inr (.inl (String.le_antisymm (String.not_lt.mp hts) (String.not_lt.mp hst)))

/-- Any two spans are comparable. -/
theorem lt_trichotomy (a b : Span) : a < b ∨ a = b ∨ b < a := by
  obtain ⟨fa, sa, ea⟩ := a
  obtain ⟨fb, sb, eb⟩ := b
  simp only [lt_def, Span.mk.injEq]
  rcases file_trichotomy fa fb with hf | rfl | hf
  · exact .inl (.inl hf)
  · rcases Position.lt_trichotomy sa sb with hs | rfl | hs
    · exact .inl (.inr ⟨rfl, .inl hs⟩)
    · rcases Position.lt_trichotomy ea eb with ht | rfl | ht
      · exact .inl (.inr ⟨rfl, .inr ⟨rfl, ht⟩⟩)
      · exact .inr (.inl ⟨rfl, rfl, rfl⟩)
      · exact .inr (.inr (.inr ⟨rfl, .inr ⟨rfl, ht⟩⟩))
    · exact .inr (.inr (.inr ⟨rfl, .inl hs⟩))
  · exact .inr (.inr (.inl hf))

/-- Where two spans stand in the order. -/
instance : Ord Span := ⟨fun a b => compareOfLessAndEq a b⟩

/-- The spans in ascending order, equal ones kept. -/
def sort (spans : List Span) : List Span :=
  spans.mergeSort fun a b => !decide (b < a)

/-- The span contains a position: it lies between the start and the end, both included. -/
def contains (s : Span) (p : Position) : Bool :=
  decide (s.start ≤ p) && decide (p ≤ s.stop)

/-- How far the end lies from the start. Among spans that contain one position, the one of least
extent counts as the innermost. -/
def extent (s : Span) : Position :=
  s.stop.since s.start

/-- The start comes no later than the end. -/
def WellFormed (s : Span) : Prop :=
  s.start ≤ s.stop

instance (s : Span) : Decidable s.WellFormed :=
  inferInstanceAs (Decidable (s.start ≤ s.stop))

/-- The text `file:line:first-last` of a span within a line, `file:(line,col)-(line,col)` of any
other. -/
def text (s : Span) : String :=
  if s.start.line = s.stop.line then
    s.file ++ ":" ++ s.start.line.text ++ ":" ++ s.start.col.text ++ "-" ++ s.stop.col.text
  else
    s.file ++ ":(" ++ s.start.line.text ++ "," ++ s.start.col.text ++ ")-(" ++
      s.stop.line.text ++ "," ++ s.stop.col.text ++ ")"

end Span

end Xref
