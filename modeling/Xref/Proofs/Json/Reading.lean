import Xref.Json.Parser
import Xref.Proofs.Json.Lexing

/-!
# Written values are read back

The tokens of a value lead the reading machine from where it expects a value to where it has read
that one (`foldlM_tokens`), inside whatever is still open around it. In between, the items or fields
that were read wait on the stack in reverse. And a number among the tokens is always followed by
punctuation (`isChain_tokens`), so the text of a value is read back as that value (`parse?_render`).
Only numbers that are kept as text might not be legible, and values are made up without them.
-/

namespace Xref.Json

open State

/-! ## From tokens to values -/

/-- Before the first item of an array the machine goes on as before any other. -/
theorem foldlM_firstItem (item : Json) (items : List Json) (stack : List Frame) :
    (itemTokens (item :: items)).foldlM step? (firstItem stack) =
      (itemTokens (item :: items)).foldlM step? (value (.array [] :: stack)) := by
  -- No value begins with a closing bracket.
  have hitem : item.tokens.foldlM step? (firstItem stack) =
      item.tokens.foldlM step? (value (.array [] :: stack)) := by
    cases item <;> rfl
  cases items with
  | nil => rw [itemTokens, List.foldlM_append, hitem, ← List.foldlM_append]
  | cons next rest => rw [itemTokens, List.foldlM_append, hitem, ← List.foldlM_append]

/-- Before the first key of an object the machine goes on as before any other. -/
theorem foldlM_firstKey (field : Option String × Json) (fields : List (Option String × Json))
    (stack : List Frame) :
    (fieldTokens (field :: fields)).foldlM step? (firstKey stack) =
      (fieldTokens (field :: fields)).foldlM step? (nextKey stack []) := by
  cases fields <;> rfl

mutual

/-- The tokens of a value are read as that value. -/
theorem foldlM_tokens (v : Json) (stack : List Frame) :
    v.tokens.foldlM step? (.value stack) = some (.after stack v) := by
  match v with
  | null | bool _ | natural _ | number _ | string _ | array [] | object [] => rfl
  | array (item :: items) =>
    have hitems := foldlM_itemTokens (item :: items) (List.cons_ne_nil _ _) [] stack
    rw [← foldlM_firstItem] at hitems
    exact hitems
  | object (field :: fields) =>
    have hfields := foldlM_fieldTokens (field :: fields) (List.cons_ne_nil _ _) [] stack
    rw [← foldlM_firstKey] at hfields
    exact hfields

/-- The tokens of items are read as these items, after those that were read before. -/
theorem foldlM_itemTokens (items : List Json) (hne : items ≠ []) (done : List Json)
    (stack : List Frame) :
    (itemTokens items).foldlM step? (.value (.array done :: stack)) =
      some (.after stack (.array (done.reverse ++ items))) := by
  match items with
  | [item] =>
    rw [itemTokens, List.foldlM_append, foldlM_tokens item]
    show some (after stack (.array (item :: done).reverse)) = _
    rw [List.reverse_cons]
  | item :: next :: rest =>
    have hrest := foldlM_itemTokens (next :: rest) (List.cons_ne_nil _ _) (item :: done) stack
    rw [List.reverse_cons, List.append_assoc, List.singleton_append] at hrest
    rw [itemTokens, List.foldlM_append, foldlM_tokens item]
    exact hrest

/-- The tokens of fields are read as these fields, after those that were read before. -/
theorem foldlM_fieldTokens (fields : List (Option String × Json)) (hne : fields ≠ [])
    (done : List (Option String × Json)) (stack : List Frame) :
    (fieldTokens fields).foldlM step? (.nextKey stack done) =
      some (.after stack (.object (done.reverse ++ fields))) := by
  match fields with
  | [(key, v)] =>
    have hv : (v.tokens ++ [Token.closeBrace]).foldlM step? (.value (.object done key :: stack)) =
        some (after stack (.object ((key, v) :: done).reverse)) := by
      rw [List.foldlM_append, foldlM_tokens v]
      rfl
    rw [List.reverse_cons] at hv
    exact hv
  | (key, v) :: next :: rest =>
    have hrest := foldlM_fieldTokens (next :: rest) (List.cons_ne_nil _ _) ((key, v) :: done) stack
    rw [List.reverse_cons, List.append_assoc, List.singleton_append] at hrest
    have hv : (v.tokens ++ Token.comma :: fieldTokens (next :: rest)).foldlM step?
        (.value (.object done key :: stack)) =
          (fieldTokens (next :: rest)).foldlM step? (.nextKey stack ((key, v) :: done)) := by
      rw [List.foldlM_append, foldlM_tokens v]
      rfl
    exact hv.trans hrest

end

/-- The tokens of a value make up that value. -/
theorem ofTokens?_tokens (v : Json) : ofTokens? v.tokens = some v := by
  rw [ofTokens?, foldlM_tokens]
  rfl

/-! ## From text to tokens -/

/-- Tokens that are set off stay so when punctuation and more tokens follow. -/
theorem isChain_append_punctuation {ts us : List Token} {p : Token} (hp : p.isPunctuation = true)
    (hts : ts.IsChain Token.MayPrecede) (hus : (p :: us).IsChain Token.MayPrecede) :
    (ts ++ p :: us).IsChain Token.MayPrecede := by
  refine List.isChain_append.mpr ⟨hts, hus, fun t _ u hu => ?_⟩
  cases hu
  exact fun _ => hp

/-- Any tokens may be written after a token that is no number. -/
theorem isChain_cons_of_not_isNumber {t : Token} (ht : t.isNumber = false) {ts : List Token}
    (hts : ts.IsChain Token.MayPrecede) : (t :: ts).IsChain Token.MayPrecede := by
  refine List.isChain_cons.mpr ⟨fun u _ hnumber => ?_, hts⟩
  rw [ht] at hnumber
  cases hnumber

mutual

/-- In the tokens of a value, numbers are set off by punctuation. -/
theorem isChain_tokens (v : Json) : v.tokens.IsChain Token.MayPrecede := by
  match v with
  | null | bool _ | natural _ | number _ | string _ => exact List.isChain_singleton _
  | array items => exact isChain_cons_of_not_isNumber rfl (isChain_itemTokens items)
  | object fields => exact isChain_cons_of_not_isNumber rfl (isChain_fieldTokens fields)

theorem isChain_itemTokens (items : List Json) :
    (itemTokens items).IsChain Token.MayPrecede := by
  match items with
  | [] => exact List.isChain_singleton _
  | [item] =>
    exact isChain_append_punctuation rfl (isChain_tokens item) (List.isChain_singleton _)
  | item :: next :: rest =>
    exact isChain_append_punctuation rfl (isChain_tokens item)
      (isChain_cons_of_not_isNumber rfl (isChain_itemTokens (next :: rest)))

theorem isChain_fieldTokens (fields : List (Option String × Json)) :
    (fieldTokens fields).IsChain Token.MayPrecede := by
  match fields with
  | [] => exact List.isChain_singleton _
  | [(key, v)] =>
    exact isChain_cons_of_not_isNumber rfl <| isChain_cons_of_not_isNumber rfl <|
      isChain_append_punctuation rfl (isChain_tokens v) (List.isChain_singleton _)
  | (key, v) :: next :: rest =>
    exact isChain_cons_of_not_isNumber rfl <| isChain_cons_of_not_isNumber rfl <|
      isChain_append_punctuation rfl (isChain_tokens v)
        (isChain_cons_of_not_isNumber rfl (isChain_fieldTokens (next :: rest)))

end

/-- The text of a value is that of its tokens. -/
theorem ofString_render (v : Json) :
    Input.ofString v.render = v.tokens.flatMap Token.input := by
  rw [Input.ofString, render, String.toList_join, List.flatMap_map, List.map_flatMap]
  rfl

/-! ## Legible values -/

/-- The value is written in legible tokens. -/
def Legible (v : Json) : Prop :=
  ∀ t ∈ v.tokens, t.Legible

@[simp]
theorem legible_null : Legible null :=
  List.forall_mem_singleton.mpr (Token.legible_of_ne_number nofun)

@[simp]
theorem legible_natural (n : ℕ) : Legible (natural n) :=
  List.forall_mem_singleton.mpr (Token.legible_natural n)

@[simp]
theorem legible_ofString (text : String) : Legible (ofString text) :=
  List.forall_mem_singleton.mpr (Token.legible_string text)

@[simp]
theorem legible_ofString? (text : Option String) : Legible (ofString? text) := by
  cases text with
  | none => exact legible_null
  | some text => exact legible_ofString text

theorem legible_array {items : List Json} (h : ∀ item ∈ items, item.Legible) :
    Legible (array items) := by
  have hitems : ∀ t ∈ itemTokens items, t.Legible := by
    induction items with
    | nil => exact List.forall_mem_singleton.mpr (Token.legible_of_ne_number nofun)
    | cons item rest ih =>
      obtain ⟨hitem, hrest⟩ := List.forall_mem_cons.mp h
      cases rest with
      | nil =>
        exact List.forall_mem_append.mpr
          ⟨hitem, List.forall_mem_singleton.mpr (Token.legible_of_ne_number nofun)⟩
      | cons next rest =>
        exact List.forall_mem_append.mpr
          ⟨hitem, List.forall_mem_cons.mpr ⟨Token.legible_of_ne_number nofun, ih hrest⟩⟩
  exact List.forall_mem_cons.mpr ⟨Token.legible_of_ne_number nofun, hitems⟩

theorem legible_object {fields : List (Option String × Json)}
    (h : ∀ field ∈ fields, field.2.Legible) : Legible (object fields) := by
  have hfields : ∀ t ∈ fieldTokens fields, t.Legible := by
    induction fields with
    | nil => exact List.forall_mem_singleton.mpr (Token.legible_of_ne_number nofun)
    | cons field rest ih =>
      obtain ⟨hfield, hrest⟩ := List.forall_mem_cons.mp h
      -- Whatever follows the field, its key and the colon are legible.
      have hkey : ∀ ts : List Token, (∀ t ∈ ts, t.Legible) →
          ∀ t ∈ Token.string field.1 :: .colon :: field.2.tokens ++ ts, t.Legible := fun ts hts =>
        List.forall_mem_cons.mpr ⟨Token.legible_of_ne_number nofun, List.forall_mem_cons.mpr
          ⟨Token.legible_of_ne_number nofun, List.forall_mem_append.mpr ⟨hfield, hts⟩⟩⟩
      cases rest with
      | nil => exact hkey _ (List.forall_mem_singleton.mpr (Token.legible_of_ne_number nofun))
      | cons next rest =>
        exact hkey _ (List.forall_mem_cons.mpr ⟨Token.legible_of_ne_number nofun, ih hrest⟩)
  exact List.forall_mem_cons.mpr ⟨Token.legible_of_ne_number nofun, hfields⟩

theorem legible_record {fields : List (String × Json)} (h : ∀ field ∈ fields, field.2.Legible) :
    Legible (record fields) :=
  legible_object (List.forall_mem_map.mpr h)

/-- The text of a legible value is read back as that value. -/
theorem parse?_render {v : Json} (h : v.Legible) : parse? v.render = some v := by
  rw [parse?, read?, ofString_render, lex?_written h (isChain_tokens v)]
  exact ofTokens?_tokens v

end Xref.Json
