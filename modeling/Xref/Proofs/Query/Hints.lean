import Mathlib.Algebra.Group.Nat.Defs
import Xref.Proofs.Query.AtPosition
import Xref.Proofs.Query.EachEntry
import Xref.Query.TypeHint

/-!
# Hints of types in a range

A hint belongs to a name that is bound there, stands for a term and has a type
(`Entry.IsTypedBinder`), and each such name has one hint (`Index.forall₂_typeHints`).

In a range only the two ends of a span are looked at. All positions of a span lie between its ends,
so they all lie in the range as soon as the ends do (`Span.covers_iff_of_wellFormed`). The hints in
a range are therefore the hints of the entries that the range covers
(`Index.typeHintsIn_eq_within`), and a range that covers another one has all its hints
(`Index.typeHintsIn_sublist`).
-/

namespace Xref

namespace Span

/-! ## Ranges -/

/-- All positions of the span `inner` lie in the span `outer`. -/
def Covers (outer inner : Span) : Prop :=
  ∀ p, inner.contains p = true → outer.contains p = true

/-- A span is covered as soon as its ends are. -/
theorem covers_iff_of_wellFormed {outer inner : Span} (h : inner.WellFormed) :
    outer.Covers inner ↔
      outer.contains inner.start = true ∧ outer.contains inner.stop = true := by
  have hle : inner.start ≤ inner.stop := h
  constructor
  · intro hcovers
    have hstart : inner.contains inner.start = true :=
      contains_iff.mpr ⟨Position.le_refl _, hle⟩
    have hstop : inner.contains inner.stop = true := contains_iff.mpr ⟨hle, Position.le_refl _⟩
    exact ⟨hcovers _ hstart, hcovers _ hstop⟩
  · rintro ⟨hstart, hstop⟩ p hp
    have hafter := Position.le_trans (contains_iff.mp hstart).1 (contains_iff.mp hp).1
    have hbefore := Position.le_trans (contains_iff.mp hp).2 (contains_iff.mp hstop).2
    exact contains_iff.mpr ⟨hafter, hbefore⟩

theorem covers_iff {outer inner : Span} :
    outer.Covers inner ↔ (inner.WellFormed →
      outer.contains inner.start = true ∧ outer.contains inner.stop = true) := by
  by_cases h : inner.WellFormed
  · rw [covers_iff_of_wellFormed h]
    exact ⟨fun hends _ => hends, fun hends => hends h⟩
  · -- A span that ends before it starts has no positions.
    exact iff_of_true (fun p hp => absurd (wellFormed_of_contains hp) h) fun hwf => absurd hwf h

instance (outer inner : Span) : Decidable (outer.Covers inner) :=
  decidable_of_iff' _ covers_iff

theorem encloses_eq_covers {outer inner : Span} (h : inner.WellFormed) :
    outer.encloses inner = decide (inner.file = outer.file ∧ outer.Covers inner) := by
  rw [Bool.eq_iff_iff, decide_eq_true_iff, covers_iff_of_wellFormed h, encloses, Bool.and_eq_true,
    Bool.and_eq_true, decide_eq_true_iff, and_assoc, eq_comm]

end Span

namespace Entry

/-! ## The hint of an entry -/

/-- The name is bound here, stands for a term and has a type. -/
def IsTypedBinder (e : Entry) : Prop :=
  e.2.use = .binding ∧ (e.2.space = .value ∨ e.2.space = .dataConstructor) ∧ e.2.type ≠ none

instance : DecidablePred IsTypedBinder :=
  fun _ => inferInstanceAs (Decidable (_ ∧ _ ∧ _))

/-- The hint stands in the column after the entry, or in the last column of all if there is no
other, and tells its type. -/
structure HintedBy (e : Entry) (hint : TypeHint) : Prop where
  line : hint.position.line = e.1.stop.line
  col : hint.position.col.toNat = min (e.1.stop.col.toNat + 1) (2 ^ 32 - 1)
  label : ∃ type, e.2.type = some type ∧ hint.label = ":: " ++ type
  padding : hint.paddingLeft = true ∧ hint.paddingRight = false

theorem isTypedBinder_iff {e : Entry} :
    e.IsTypedBinder ↔
      (e.2.use.isBinding && e.2.space.isTermLevel) = true ∧ e.2.type ≠ none := by
  rw [IsTypedBinder, Bool.and_eq_true, Use.isBinding_iff, Namespace.isTermLevel_iff, and_assoc]

theorem exists_hintedBy {e : Entry} (h : e.IsTypedBinder) :
    ∃ hint, e.typeHint? = some hint ∧ e.HintedBy hint := by
  obtain ⟨hbinder, htyped⟩ := isTypedBinder_iff.mp h
  obtain ⟨type, htype⟩ := Option.ne_none_iff_exists'.mp htyped
  have hhint : e.typeHint? =
      some ⟨⟨e.1.stop.line, e.1.stop.col.next⟩, ":: " ++ type, true, false⟩ := by
    rw [typeHint?, if_pos hbinder, htype, Option.map_some]
  exact ⟨_, hhint, rfl, Coordinate.toNat_next _, ⟨type, htype, rfl⟩, rfl, rfl⟩

theorem typeHint?_eq_none {e : Entry} (h : ¬ e.IsTypedBinder) : e.typeHint? = none := by
  unfold typeHint?
  split
  · next hbinder =>
    have htype : e.2.type = none := by
      by_contra htyped
      exact h (isTypedBinder_iff.mpr ⟨hbinder, htyped⟩)
    rw [htype, Option.map_none]
  · rfl

end Entry

namespace Index

/-! ## The hints of an index -/

/-- Every typed binder has its hint, in the order of the entries, and there are no others. -/
theorem forall₂_typeHints (index : Index) :
    List.Forall₂ Entry.HintedBy (index.entries.filter Entry.IsTypedBinder) index.typeHints :=
  index.forall₂_filterMap (fun _ _ => Entry.exists_hintedBy) fun _ _ => Entry.typeHint?_eq_none

/-- The entries in the file of a range all of whose positions lie in the range. -/
def within (index : Index) (range : Span) : Index :=
  index.restrict fun s => s.file = range.file ∧ range.Covers s

theorem typeHintsIn_eq_within {index : Index} (h : ∀ e ∈ index.entries, e.1.WellFormed)
    (range : Span) : index.typeHintsIn range = (index.within range).typeHints := by
  unfold typeHintsIn typeHints
  congr 1
  exact List.filter_congr fun e he => Span.encloses_eq_covers (h e he)

/-- A range that covers another one has all its hints. -/
theorem typeHintsIn_sublist (index : Index) {small large : Span} (hfile : small.file = large.file)
    (h : large.Covers small) : (index.typeHintsIn small).Sublist (index.typeHintsIn large) := by
  refine List.Sublist.filterMap _ (List.monotone_filter_right _ fun e he => ?_)
  simp only [Span.encloses, Bool.and_eq_true, decide_eq_true_eq] at he ⊢
  obtain ⟨⟨hsame, hstart⟩, hstop⟩ := he
  exact ⟨⟨hfile.symm.trans hsame, h _ hstart⟩, h _ hstop⟩

/-- Hints in a range are the hints of the binders that lie in it with all their positions. Without a
range, each typed binder of a term has one hint, in the order of the spans, right after its end. A
larger range of the same file has more hints between those of the smaller one. -/
theorem typeHintsIn_exact :
    (∀ index : Index, (∀ e ∈ index.entries, e.1.WellFormed) → ∀ range : Span,
      index.typeHintsIn range = (index.within range).typeHints) ∧
    (∀ index : Index,
      List.Forall₂ Entry.HintedBy (index.entries.filter Entry.IsTypedBinder) index.typeHints) ∧
    (∀ (index : Index) (small large : Span), small.file = large.file → large.Covers small →
      (index.typeHintsIn small).Sublist (index.typeHintsIn large)) :=
  ⟨fun _ h range => typeHintsIn_eq_within h range, forall₂_typeHints,
    fun index _ _ hfile h => index.typeHintsIn_sublist hfile h⟩

/-- A binder over two lines, a reference in its second line, and a binder that ends in the last
column of all. The range of the first two lines has the hint of the first binder, and so has any
range that covers it. The hint of the second binder stays in the last column. -/
theorem typeHintsIn_exact_at_limit :
    let s : Span := ⟨"T", ⟨1, 5⟩, ⟨2, 2⟩⟩
    let t : Span := .onLine "T" 3 1 4294967295
    let f : Record := ⟨"f", none, none, .value, some "Int", .known s, .binding⟩
    let g : Record := ⟨"g", none, none, .value, some "Char", .known t, .binding⟩
    let index := ofPairs [(t, g), (.onLine "T" 2 2 2, { f with use := .reference }), (s, f)]
    let small : Span := ⟨"T", ⟨1, 1⟩, ⟨2, 9⟩⟩
    let large : Span := ⟨"T", ⟨1, 1⟩, ⟨4, 1⟩⟩
    (∀ e ∈ index.entries, e.1.WellFormed) ∧ large.Covers small ∧
      index.typeHintsIn small = (index.within small).typeHints ∧
      (index.within small).typeHints = [⟨⟨2, 3⟩, ":: Int", true, false⟩] ∧
      index.typeHints =
        [⟨⟨2, 3⟩, ":: Int", true, false⟩, ⟨⟨3, 4294967295⟩, ":: Char", true, false⟩] ∧
      (index.typeHintsIn small).Sublist (index.typeHintsIn large) := by
  intro s t f g index small large
  obtain ⟨hin, -, hmore⟩ := typeHintsIn_exact
  have hwf : ∀ e ∈ index.entries, e.1.WellFormed := by decide +kernel
  have hcovers : large.Covers small := by decide
  exact ⟨hwf, hcovers, hin index hwf small, by decide +kernel, by decide +kernel,
    hmore index small large rfl hcovers⟩

end Index

end Xref
