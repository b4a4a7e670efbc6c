import Mathlib.Data.Prod.Lex
import Mathlib.Tactic.SplitIfs
import Xref.Source.Span

/-!
# The order of spans, in bytes

File names are compared by code points. Comparing their bytes comes to the same, since UTF-8 keeps
the order of code points: the encodings of two characters differ somewhere, and at the first such
place the greater character has the greater byte (`utf8EncodeChar_append_lt`). So text is ordered as
its bytes are (`utf8Bytes_lt_iff`), and spans are ordered by five keys, one after the other: the
bytes of the file name, then line and column of the start, then line and column of the end
(`Span.sortKey_lt_iff`).
-/

namespace Xref

/-! ## Bytes of text -/

/-- Bytes compare as the numbers that they are made of. -/
theorem byte_lt_iff {v w : ℕ} (hv : v < 256) (hw : w < 256) :
    UInt8.ofNat v < UInt8.ofNat w ↔ v < w := by
  rw [UInt8.lt_iff_toNat_lt, UInt8.toNat_ofNat', UInt8.toNat_ofNat', Nat.mod_eq_of_lt hv,
    Nat.mod_eq_of_lt hw]

/-- Bytes are equal when the numbers that they are made of are. -/
theorem byte_eq_iff {v w : ℕ} (hv : v < 256) (hw : w < 256) :
    UInt8.ofNat v = UInt8.ofNat w ↔ v = w := by
  rw [← UInt8.toNat_inj, UInt8.toNat_ofNat', UInt8.toNat_ofNat', Nat.mod_eq_of_lt hv,
    Nat.mod_eq_of_lt hw]

/-- The encoding of a smaller character comes first, whatever follows the two. -/
theorem utf8EncodeChar_append_lt {c d : Char} (h : c < d) (x y : List UInt8) :
    String.utf8EncodeChar c ++ x < String.utf8EncodeChar d ++ y := by
  have hlt : c.val.toNat < d.val.toNat := UInt32.lt_iff_toNat_lt.mp h
  have hmax : d.val.toNat < 0x110000 := by
    rcases d.valid with hd | hd
    · exact Nat.lt_trans hd (by decide)
    · exact hd.2
  unfold String.utf8EncodeChar
  dsimp only
  generalize c.val.toNat = v at *
  generalize d.val.toNat = w at *
  -- The payloads of the bytes are digits to the base 64, the first one cut off by the length.
  have hthird : ∀ n : ℕ, n / 4096 = n / 64 / 64 := fun n => (Nat.div_div_eq_div_mul n 64 64).symm
  have hfourth : ∀ n : ℕ, n / 262144 = n / 64 / 64 / 64 := fun n => by
    rw [Nat.div_div_eq_div_mul, Nat.div_div_eq_div_mul]
  rw [hthird v, hthird w, hfourth v, hfourth w]
  clear hthird hfourth
  -- Sixteen pairs of lengths. A longer encoding has the greater first byte, and two encodings of
  -- one length compare digit by digit.
  split_ifs <;>
    simp (disch := omega) only [List.cons_append, List.nil_append, List.cons_lt_cons_iff,
      byte_lt_iff, byte_eq_iff] <;>
    omega

/-- Encoding keeps the order of lists of characters. -/
theorem flatMap_utf8EncodeChar_lt {l m : List Char} (h : l < m) :
    l.flatMap String.utf8EncodeChar < m.flatMap String.utf8EncodeChar := by
  induction l generalizing m with
  | nil =>
    cases m with
    | nil => exact absurd h (List.lt_irrefl [])
    | cons d m =>
      rw [List.flatMap_nil, List.flatMap_cons]
      obtain ⟨b, bs, hbytes⟩ := List.exists_cons_of_ne_nil (String.utf8EncodeChar_ne_nil (c := d))
      rw [hbytes]
      exact List.nil_lt_cons b _
  | cons c l ih =>
    cases m with
    | nil => exact absurd h (List.not_lt_nil _)
    | cons d m =>
      rw [List.flatMap_cons, List.flatMap_cons]
      rcases List.cons_lt_cons_iff.mp h with hlt | ⟨rfl, hlt⟩
      · exact utf8EncodeChar_append_lt hlt _ _
      · exact List.append_left_lt (ih hlt)

/-- The bytes of a text in UTF-8. -/
def utf8Bytes (s : String) : List UInt8 :=
  s.toUTF8.data.toList

theorem utf8Bytes_eq_flatMap (s : String) :
    utf8Bytes s = s.toList.flatMap String.utf8EncodeChar := by
  conv_lhs => rw [← String.ofList_toList (s := s)]
  rw [utf8Bytes, String.toUTF8_eq_toByteArray, String.toByteArray_ofList]
  exact List.toList_data_toByteArray

/-- Texts with the same bytes are equal. -/
theorem utf8Bytes_inj {s t : String} : utf8Bytes s = utf8Bytes t ↔ s = t := by
  unfold utf8Bytes
  rw [Array.toList_inj, ← ByteArray.ext_iff, String.toUTF8_eq_toByteArray,
    String.toUTF8_eq_toByteArray, String.toByteArray_inj]

/-- Texts are ordered as their bytes are. -/
theorem utf8Bytes_lt_iff {s t : String} : utf8Bytes s < utf8Bytes t ↔ s < t := by
  have hmono : ∀ {s t : String}, s < t → utf8Bytes s < utf8Bytes t := fun h => by
    rw [utf8Bytes_eq_flatMap, utf8Bytes_eq_flatMap]
    exact flatMap_utf8EncodeChar_lt (String.lt_iff.mp h)
  refine ⟨fun h => ?_, hmono⟩
  rcases Span.file_trichotomy s t with hlt | rfl | hgt
  · exact hlt
  · exact absurd h (List.lt_irrefl _)
  · exact absurd h (List.lt_asymm (hmono hgt))

/-! ## Keys of spans -/

namespace Span

/-- What spans are sorted by: the bytes of the file name, then line and column of the start, then
line and column of the end. -/
def sortKey (s : Span) :
    List UInt8 ×ₗ Coordinate ×ₗ Coordinate ×ₗ Coordinate ×ₗ Coordinate :=
  toLex (utf8Bytes s.file, toLex (s.start.line, toLex (s.start.col, toLex (s.stop.line,
    s.stop.col))))

/-- Spans are ordered by their keys, one key after the other. -/
theorem sortKey_lt_iff {a b : Span} : a.sortKey < b.sortKey ↔ a < b := by
  have hstart : a.start = b.start ↔ a.start.line = b.start.line ∧ a.start.col = b.start.col := by
    cases a.start
    cases b.start
    rw [Position.mk.injEq]
  have hpos : ∀ p q : Position, p < q ↔ p.line < q.line ∨ (p.line = q.line ∧ p.col < q.col) :=
    fun _ _ => Iff.rfl
  simp only [sortKey, Prod.Lex.toLex_lt_toLex, utf8Bytes_lt_iff, utf8Bytes_inj]
  rw [lt_def, hpos, hpos, hstart]
  tauto

end Span

end Xref
