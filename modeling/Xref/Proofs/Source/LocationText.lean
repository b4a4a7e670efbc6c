import Mathlib.Data.List.Basic
import Xref.Proofs.Delimiter
import Xref.Source.Location

/-!
# Texts of locations

The text of a location tells which location it is, whatever its file is called. A file name can look
like a line and a column itself, so the text is read from its end. The digits there are one number,
and the character before them is no digit, so the number is known and so is the character
(`append_digits_inj`). The last such character is `-` in the text of a span within a line, `)` in
that of a longer span and `>` in a description, which tells the three formats apart. Number by
number what is left gets shorter, and in the end it is the name of the file.
-/

namespace Xref

/-! ## Numbers at the end of a text -/

/-- The digits at the end of a text are known, and the character before them with what precedes
it. -/
theorem append_digits_inj {xs ys ds es : List Char} {a b : Char} (ha : a.isDigit = false)
    (hb : b.isDigit = false) (hds : ∀ c ∈ ds, c.isDigit = true) (hes : ∀ c ∈ es, c.isDigit = true)
    (h : xs ++ a :: ds = ys ++ b :: es) : xs = ys ∧ a = b ∧ ds = es :=
  append_cons_inj_right hds hes ha hb h

namespace Coordinate

theorem isDigit_of_mem_text {n : Coordinate} {c : Char} (h : c ∈ n.text.toList) :
    c.isDigit = true := by
  unfold text at h
  rw [Nat.toList_repr] at h
  exact Nat.isDigit_of_mem_toDigits (by decide) (by decide) h

theorem text_inj {m n : Coordinate} : m.text = n.text ↔ m = n := by
  refine ⟨fun h => ?_, congrArg text⟩
  have hdigits : Nat.toDigits 10 m.toNat = Nat.toDigits 10 n.toNat := by
    rw [← Nat.toList_repr, ← Nat.toList_repr]
    exact congrArg String.toList h
  have hnumber : m.toNat = n.toNat := by
    rw [← Nat.ofDigitChars_ten_toDigits (n := m.toNat), hdigits, Nat.ofDigitChars_ten_toDigits]
  exact UInt32.toNat_inj.mp hnumber

/-- A number at the end of a text is known, and the character before it with what precedes it. -/
theorem append_text_inj {xs ys : List Char} {a b : Char} {m n : Coordinate}
    (ha : a.isDigit = false) (hb : b.isDigit = false)
    (h : xs ++ a :: m.text.toList = ys ++ b :: n.text.toList) : xs = ys ∧ a = b ∧ m = n := by
  obtain ⟨hxs, hab, htext⟩ := append_digits_inj ha hb (fun _ => isDigit_of_mem_text)
    (fun _ => isDigit_of_mem_text) h
  exact ⟨hxs, hab, text_inj.mp (String.toList_inj.mp htext)⟩

/-- A text that ends in a number after `a` does not end in another character than a digit. -/
theorem append_text_ne {xs ys : List Char} {a b : Char} {n : Coordinate} (ha : a.isDigit = false)
    (hb : b.isDigit = false) (hab : a ≠ b) : xs ++ a :: n.text.toList ≠ ys ++ [b] := by
  intro h
  exact hab (append_digits_inj ha hb (fun _ => isDigit_of_mem_text) (by simp) h).2.1

end Coordinate

/-! ## The texts of spans -/

namespace Span

/-- The text of a span within a line: the file name, and three numbers with a character before
each. -/
theorem toList_text_of_line_eq {s : Span} (h : s.start.line = s.stop.line) :
    s.text.toList = ((s.file.toList ++ ':' :: s.start.line.text.toList) ++
      ':' :: s.start.col.text.toList) ++ '-' :: s.stop.col.text.toList := by
  unfold text
  rw [if_pos h]
  simp [String.toList_append]

/-- The text of a longer span: the file name, and two pairs of numbers in parentheses. -/
theorem toList_text_of_line_ne {s : Span} (h : s.start.line ≠ s.stop.line) :
    s.text.toList = ((((((s.file.toList ++ [':']) ++ '(' :: s.start.line.text.toList) ++
      ',' :: s.start.col.text.toList) ++ [')', '-']) ++ '(' :: s.stop.line.text.toList) ++
      ',' :: s.stop.col.text.toList) ++ [')'] := by
  unfold text
  rw [if_neg h]
  simp [String.toList_append]

/-- A span is determined by its file and its four numbers. -/
theorem eq_of_coordinates {s t : Span} (hfile : s.file = t.file)
    (hstartLine : s.start.line = t.start.line) (hstartCol : s.start.col = t.start.col)
    (hstopLine : s.stop.line = t.stop.line) (hstopCol : s.stop.col = t.stop.col) : s = t := by
  calc s = ⟨s.file, ⟨s.start.line, s.start.col⟩, ⟨s.stop.line, s.stop.col⟩⟩ := rfl
    _ = ⟨t.file, ⟨t.start.line, t.start.col⟩, ⟨t.stop.line, t.stop.col⟩⟩ := by
        rw [hfile, hstartLine, hstartCol, hstopLine, hstopCol]
    _ = t := rfl

/-- Spans within a line are known from their texts. -/
theorem eq_of_text_eq_of_line_eq {s t : Span} (hs : s.start.line = s.stop.line)
    (ht : t.start.line = t.stop.line) (h : s.text = t.text) : s = t := by
  have hlist := congrArg String.toList h
  rw [toList_text_of_line_eq hs, toList_text_of_line_eq ht] at hlist
  obtain ⟨hlist, -, hstopCol⟩ := Coordinate.append_text_inj rfl rfl hlist
  obtain ⟨hlist, -, hstartCol⟩ := Coordinate.append_text_inj rfl rfl hlist
  obtain ⟨hlist, -, hline⟩ := Coordinate.append_text_inj rfl rfl hlist
  have hstopLine : s.stop.line = t.stop.line := by rw [← hs, ← ht, hline]
  exact eq_of_coordinates (String.toList_inj.mp hlist) hline hstartCol hstopLine hstopCol

/-- Longer spans are known from their texts. -/
theorem eq_of_text_eq_of_line_ne {s t : Span} (hs : s.start.line ≠ s.stop.line)
    (ht : t.start.line ≠ t.stop.line) (h : s.text = t.text) : s = t := by
  have hlist := congrArg String.toList h
  rw [toList_text_of_line_ne hs, toList_text_of_line_ne ht] at hlist
  have hlist := List.append_cancel_right hlist
  obtain ⟨hlist, -, hstopCol⟩ := Coordinate.append_text_inj rfl rfl hlist
  obtain ⟨hlist, -, hstopLine⟩ := Coordinate.append_text_inj rfl rfl hlist
  have hlist := List.append_cancel_right hlist
  obtain ⟨hlist, -, hstartCol⟩ := Coordinate.append_text_inj rfl rfl hlist
  obtain ⟨hlist, -, hstartLine⟩ := Coordinate.append_text_inj rfl rfl hlist
  have hlist := List.append_cancel_right hlist
  exact eq_of_coordinates (String.toList_inj.mp hlist) hstartLine hstartCol hstopLine hstopCol

/-- The text of a span within a line ends in a digit, and that of a longer span does not. -/
theorem text_ne_of_line {s t : Span} (hs : s.start.line = s.stop.line)
    (ht : t.start.line ≠ t.stop.line) : s.text ≠ t.text := by
  intro h
  have hlist := congrArg String.toList h
  rw [toList_text_of_line_eq hs, toList_text_of_line_ne ht] at hlist
  exact Coordinate.append_text_ne rfl rfl (by decide) hlist

theorem text_inj {s t : Span} : s.text = t.text ↔ s = t := by
  refine ⟨fun h => ?_, congrArg text⟩
  by_cases hs : s.start.line = s.stop.line
  · by_cases ht : t.start.line = t.stop.line
    · exact eq_of_text_eq_of_line_eq hs ht h
    · exact absurd h (text_ne_of_line hs ht)
  · by_cases ht : t.start.line = t.stop.line
    · exact absurd h.symm (text_ne_of_line ht hs)
    · exact eq_of_text_eq_of_line_ne hs ht h

end Span

/-! ## The texts of locations -/

namespace Location

/-- No text of a span ends in an angle bracket. -/
theorem text_known_ne_text_placeholder (s : Span) (d : String) :
    (known s).text ≠ (placeholder d).text := by
  intro h
  have hlist : s.text.toList = ('<' :: d.toList) ++ ['>'] := by
    have htext := congrArg String.toList h
    simpa [text, String.toList_append] using htext
  by_cases hs : s.start.line = s.stop.line
  · rw [Span.toList_text_of_line_eq hs] at hlist
    exact Coordinate.append_text_ne rfl rfl (by decide) hlist
  · rw [Span.toList_text_of_line_ne hs] at hlist
    obtain ⟨-, hbracket, -⟩ := append_digits_inj rfl rfl (by simp) (by simp) hlist
    exact absurd hbracket (by decide)

theorem text_placeholder_inj {d e : String} :
    (placeholder d).text = (placeholder e).text ↔ d = e := by
  refine ⟨fun h => ?_, fun h => by rw [h]⟩
  have hlist : d.toList ++ ['>'] = e.toList ++ ['>'] := by
    have htext := congrArg String.toList h
    simpa [text, String.toList_append] using htext
  exact String.toList_inj.mp (List.append_cancel_right hlist)

/-- Locations are known from their texts: a span with any file name and any numbers, or any
description. The text of a span within a line is never that of a longer span. -/
theorem text_unambiguous :
    (∀ x y : Location, x.text = y.text ↔ x = y) ∧
    (∀ s t : Span, s.start.line = s.stop.line → t.start.line ≠ t.stop.line →
      (known s).text ≠ (known t).text) := by
  refine ⟨fun x y => ?_, fun s t hs ht => Span.text_ne_of_line hs ht⟩
  cases x with
  | known s =>
    cases y with
    | known t => rw [known.injEq, ← Span.text_inj, text, text]
    | placeholder e => exact iff_of_false (text_known_ne_text_placeholder s e) nofun
  | placeholder d =>
    cases y with
    | known t => exact iff_of_false (text_known_ne_text_placeholder t d).symm nofun
    | placeholder e => rw [text_placeholder_inj, placeholder.injEq]

/-- The name of a file that looks like the beginning of another text: `A.hs:(1,1)-(3,4)` is the text
of a span over three lines of `A.hs`, and of no span within line 4 of the file `A.hs:(1,1)-(3`. -/
theorem text_of_misleading_file :
    let lines : Span := ⟨"A.hs", ⟨1, 1⟩, ⟨3, 4⟩⟩
    let line : Coordinate → Coordinate → Span := .onLine "A.hs:(1,1)-(3" 4
    (known lines).text = "A.hs:(1,1)-(3,4)" ∧ (known (line 1 2)).text = "A.hs:(1,1)-(3:4:1-2" ∧
      (∀ first last, (known (line first last)).text ≠ (known lines).text) ∧
      (known lines).text ≠ (placeholder "A.hs:(1,1)-(3,4)").text := by
  intro lines line
  obtain ⟨hinj, hline⟩ := text_unambiguous
  refine ⟨by decide +kernel, by decide +kernel, fun first last => ?_, ?_⟩
  · exact hline (line first last) lines rfl (by decide)
  · exact mt (hinj _ _).mp nofun

end Location

end Xref
