import Mathlib.Tactic.SplitIfs
import Xref.Source.Span

/-!
# Extents of nested spans

The extent of a span is a rough measure of it: the lines from its start to its end, and then
columns. For a span within one line these are the columns from start to end; for a longer one only
the column of the end counts. It still grows with the span: a span inside another one has no
greater extent (`Span.extent_le_of_within`).

Two different nested spans can still be of one extent, but in one way only
(`Span.extent_eq_iff_of_within`): both go over several lines, start in one line and end at one
position. Such spans are called flush. They differ in the columns of their starts, which the extent
does not look at.

Distances stop at zero, so a span that ends before it starts has no sensible extent. The extent of
any other span is made of true differences (`Span.exactExtent_of_wellFormed`).
-/

namespace Xref

namespace Position

/-! ## The order of positions -/

theorem le_refl (a : Position) : a ≤ a := by
  rw [le_iff]
  omega

theorem le_trans {a b c : Position} (hab : a ≤ b) (hbc : b ≤ c) : a ≤ c := by
  rw [le_iff] at *
  omega

theorem le_antisymm {a b : Position} (hab : a ≤ b) (hba : b ≤ a) : a = b := by
  rw [le_iff] at hab hba
  rw [eq_iff]
  omega

theorem le_total (a b : Position) : a ≤ b ∨ b ≤ a := by
  rw [le_iff, le_iff]
  omega

instance : Std.IsLinearOrder Position where
  le_refl := le_refl
  le_trans _ _ _ := le_trans
  le_antisymm _ _ := le_antisymm
  le_total := le_total

theorem not_le {a b : Position} : ¬ a ≤ b ↔ b < a := by
  rw [le_iff, lt_iff]
  omega

theorem lt_or_eq_of_le {a b : Position} (h : a ≤ b) : a < b ∨ a = b := by
  rw [le_iff] at h
  rw [lt_iff, eq_iff]
  omega

end Position

namespace Span

theorem eq_iff {a b : Span} : a = b ↔ a.file = b.file ∧ a.start = b.start ∧ a.stop = b.stop := by
  cases a
  cases b
  rw [Span.mk.injEq]

/-! ## Nested spans -/

/-- The span `a` lies inside the span `b` of the same file; the two may be equal. -/
structure Within (a b : Span) : Prop where
  file : a.file = b.file
  start : b.start ≤ a.start
  stop : a.stop ≤ b.stop

/-- Both spans go over several lines, from one line to one position. Only the columns of their
starts can differ. -/
structure Flush (a b : Span) : Prop where
  multiline : a.start.line < a.stop.line
  startLine : a.start.line = b.start.line
  stop : a.stop = b.stop

/-! ## Extents -/

theorem toNat_extent_line (s : Span) :
    s.extent.line.toNat = s.stop.line.toNat - s.start.line.toNat :=
  Coordinate.toNat_minus _ _

theorem toNat_extent_col (s : Span) :
    s.extent.col.toNat =
      if s.stop.line.toNat ≤ s.start.line.toNat then s.stop.col.toNat - s.start.col.toNat
      else s.stop.col.toNat := by
  have hlines := s.toNat_extent_line
  have hzero : s.extent.line = 0 ↔ s.stop.line.toNat ≤ s.start.line.toNat := by
    rw [← UInt32.toNat_inj, hlines, UInt32.toNat_zero]
    omega
  have hcol : s.extent.col =
      if s.extent.line = 0 then s.stop.col.minus s.start.col else s.stop.col := rfl
  rw [hcol]
  split_ifs with hline hle hle
  · exact Coordinate.toNat_minus _ _
  · exact absurd (hzero.mp hline) hle
  · exact absurd (hzero.mpr hle) hline
  · rfl

/-- A span inside another has no greater extent. -/
theorem extent_le_of_within {a b : Span} (ha : a.WellFormed) (h : a.Within b) :
    a.extent ≤ b.extent := by
  have hstart := Position.le_iff.mp h.start
  have hstop := Position.le_iff.mp h.stop
  have hwf : a.start ≤ a.stop := ha
  rw [Position.le_iff] at hwf ⊢
  rw [toNat_extent_line, toNat_extent_line, toNat_extent_col, toNat_extent_col]
  split_ifs <;> omega

/-- Nested spans of one extent are equal or flush. -/
theorem extent_eq_iff_of_within {a b : Span} (ha : a.WellFormed) (h : a.Within b) :
    a.extent = b.extent ↔ a = b ∨ a.Flush b := by
  have hstart := Position.le_iff.mp h.start
  have hstop := Position.le_iff.mp h.stop
  have hwf := Position.le_iff.mp (show a.start ≤ a.stop from ha)
  constructor
  · intro hextent
    rw [Position.eq_iff, toNat_extent_line, toNat_extent_line, toNat_extent_col,
      toNat_extent_col] at hextent
    -- As many lines in both, so no line is added before or after.
    have hends : a.stop = b.stop := by
      rw [Position.eq_iff]
      split_ifs at hextent <;> omega
    have hline : a.start.line.toNat = b.start.line.toNat := by omega
    by_cases hmulti : a.start.line.toNat < a.stop.line.toNat
    · exact .inr ⟨UInt32.lt_iff_toNat_lt.mpr hmulti, UInt32.toNat_inj.mp hline, hends⟩
    · have hstarts : a.start = b.start := by
        rw [Position.eq_iff] at hends ⊢
        split_ifs at hextent <;> omega
      exact .inl (eq_iff.mpr ⟨h.file, hstarts, hends⟩)
  · rintro (rfl | hflush)
    · rfl
    · have hmulti := UInt32.lt_iff_toNat_lt.mp hflush.multiline
      have hline := UInt32.toNat_inj.mpr hflush.startLine
      rw [Position.eq_iff, toNat_extent_line, toNat_extent_line, toNat_extent_col,
        toNat_extent_col, ← hflush.stop]
      split_ifs <;> omega

/-- Flush spans both go over several lines. -/
theorem flush_iff {a b : Span} :
    a.Flush b ↔ a.start.line < a.stop.line ∧ b.start.line < b.stop.line ∧
      a.start.line = b.start.line ∧ a.stop = b.stop := by
  constructor
  · rintro ⟨hmulti, hline, hstop⟩
    exact ⟨hmulti, hline ▸ hstop ▸ hmulti, hline, hstop⟩
  · rintro ⟨hmulti, -, hline, hstop⟩
    exact ⟨hmulti, hline, hstop⟩

/-- The extent is what it would be if distances could be negative: each half of it that is a
distance is the difference of two integers. -/
structure ExactExtent (s : Span) : Prop where
  lines : (s.extent.line.toNat : Int) = s.stop.line.toNat - s.start.line.toNat
  /-- The distance of columns counts when there are no lines between the ends. -/
  cols : s.extent.line = 0 → (s.extent.col.toNat : Int) = s.stop.col.toNat - s.start.col.toNat
  stop : s.extent.line ≠ 0 → s.extent.col = s.stop.col

theorem exactExtent_of_wellFormed {s : Span} (h : s.WellFormed) : s.ExactExtent := by
  have hwf := Position.le_iff.mp (show s.start ≤ s.stop from h)
  have hlines := s.toNat_extent_line
  refine ⟨by omega, fun hzero => ?_, fun hne => if_neg hne⟩
  rw [← UInt32.toNat_inj, hlines, UInt32.toNat_zero] at hzero
  have hcols := s.toNat_extent_col
  rw [if_pos (by omega)] at hcols
  omega

/-- The extent grows with the span, and the ties are known. Of two nested spans of one file the
inner one has no greater extent; the extents are equal exactly if the spans are, or if both go over
several lines, start in one line and end at one position, so that only the columns of their starts
differ. No distance is cut off at zero in the extent of a span that does not end before it
starts. -/
theorem extent_of_nested_exact :
    (∀ a b : Span, a.WellFormed → a.Within b → a.extent ≤ b.extent ∧
      (a.extent = b.extent ↔ a = b ∨
        (a.start.line < a.stop.line ∧ b.start.line < b.stop.line ∧
          a.start.line = b.start.line ∧ a.stop = b.stop))) ∧
    (∀ s : Span, s.WellFormed → s.ExactExtent) := by
  refine ⟨fun a b ha h => ⟨extent_le_of_within ha h, ?_⟩, fun s => exactExtent_of_wellFormed⟩
  rw [extent_eq_iff_of_within ha h, flush_iff]

/-- A span over two lines that starts in the third column has the extent of the one around it that
starts in the first. In front of a span within a line two columns more make a difference. The extent
of the longest span of all is exact. -/
theorem extent_of_flush_lines :
    let whole : Span := ⟨"T", ⟨1, 1⟩, ⟨2, 5⟩⟩
    let tail : Span := ⟨"T", ⟨1, 3⟩, ⟨2, 5⟩⟩
    let word : Span := .onLine "T" 2 3 5
    let words : Span := .onLine "T" 2 1 5
    let all : Span := ⟨"T", ⟨0, 0⟩, ⟨4294967295, 4294967295⟩⟩
    tail.extent = whole.extent ∧ tail ≠ whole ∧ word.extent ≤ words.extent ∧
      word.extent ≠ words.extent ∧ all.ExactExtent := by
  intro whole tail word words all
  obtain ⟨hnested, hexact⟩ := extent_of_nested_exact
  obtain ⟨-, htie⟩ := hnested tail whole (by decide) ⟨rfl, by decide, by decide⟩
  obtain ⟨hle, hword⟩ := hnested word words (by decide) ⟨rfl, by decide, by decide⟩
  exact ⟨htie.mpr (.inr (by decide)), by decide, hle, mt hword.mp (by decide),
    hexact all (by decide)⟩

end Span

end Xref
