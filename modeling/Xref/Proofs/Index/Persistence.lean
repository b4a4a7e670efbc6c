import Mathlib.Data.List.Forall2
import Xref.Index.Interchange
import Xref.Proofs.Index.History
import Xref.Proofs.Json.Reading

/-!
# Indices in interchange form

Every part of an index is read back from its interchange form: strings, coordinates, structures and
variants, then spans, records and entries.

A text may hold its pairs in any order and hold several at one span. Only the order of pairs at one
span matters for the index (`Index.ofPairs_congr`), and an index is written in one way only. So
texts are compared by writing the indices that they denote.

Of the reader and the writer of JSON text it is only used that the values of indices are read as
they were written (`Index.Codec`). All of them are written in legible tokens, so the ones of this
library do so (`Index.Codec.json`), and what is proved for any of them is true of these.
-/

namespace Xref

/-! ## Structures and variants -/

/-- Items are read one by one, all of them or none. -/
theorem mapM_eq_some_iff {α β : Type} {f : α → Option β} {items : List α} {results : List β} :
    items.mapM f = some results ↔
      List.Forall₂ (fun item result => f item = some result) items results := by
  induction items generalizing results with
  | nil => rw [List.mapM_nil, List.forall₂_nil_left_iff, Option.pure_def, Option.some_inj, eq_comm]
  | cons item items ih =>
    rw [List.mapM_cons, List.forall₂_cons_left_iff]
    simp only [Option.bind_eq_bind, Option.bind_eq_some_iff, Option.pure_def, Option.some_inj, ih]
    constructor
    · rintro ⟨result, hresult, rest, hrest, rfl⟩
      exact ⟨result, rest, hresult, hrest, rfl⟩
    · rintro ⟨result, rest, hresult, hrest, rfl⟩
      exact ⟨result, hresult, rest, hrest, rfl⟩

/-- Items that were written one by one are read back. -/
theorem mapM_map_eq_some {α β : Type} {write : α → β} {read? : β → Option α}
    (h : ∀ a, read? (write a) = some a) (items : List α) :
    (items.map write).mapM read? = some items := by
  rw [mapM_eq_some_iff, List.forall₂_map_left_iff, List.forall₂_same]
  exact fun item _ => h item

namespace Json

/-- A field whose name no other field has is the one found by its name. -/
theorem filter_name {fields : List (Option String × Json)}
    (hnames : (fields.map Prod.fst).Nodup) {field : Option String × Json} (hmem : field ∈ fields) :
    fields.filter (fun other => other.1 = field.1) = [field] := by
  obtain ⟨before, after, rfl⟩ := List.append_of_mem hmem
  rw [List.map_append, List.map_cons, List.nodup_middle, List.nodup_cons, List.mem_append] at hnames
  obtain ⟨hbefore, hafter⟩ := not_or.mp hnames.1
  refine List.filter_eq_cons_iff.mpr ⟨before, after, rfl, fun other hother heq => hbefore ?_,
    decide_eq_true rfl, List.filter_eq_nil_iff.mpr fun other hother heq => hafter ?_⟩
  · exact List.mem_map.mpr ⟨other, hother, of_decide_eq_true heq⟩
  · exact List.mem_map.mpr ⟨other, hother, of_decide_eq_true heq⟩

/-- The fields of a structure are read back in their order. -/
theorem members?_record {fields : List (String × Json)} (hnames : (fields.map Prod.fst).Nodup) :
    (record fields).members? (fields.map Prod.fst) =
      some (fields.map fun field => some field.2) := by
  have hkeys : ((fields.map fun field => (some field.1, field.2)).all fun field =>
      field.1.isSome) = true := by
    rw [List.all_map, List.all_eq_true]
    exact fun _ _ => rfl
  have hnodup : ((fields.map fun field => (some field.1, field.2)).map Prod.fst).Nodup := by
    rw [List.map_map]
    have hsome : ((fields.map Prod.fst).map some).Nodup :=
      hnames.map fun _ _ h => Option.some.inj h
    rwa [List.map_map] at hsome
  rw [record, members?, if_pos hkeys, mapM_eq_some_iff, List.forall₂_map_left_iff,
    List.forall₂_map_right_iff, List.forall₂_same]
  intro field hfield
  have hfilter := filter_name hnodup (List.mem_map_of_mem hfield)
  simp only [hfilter]

@[simp]
theorem text?_ofString (text : String) : (ofString text).text? = some text :=
  rfl

@[simp]
theorem optionalText?_ofString? (text : Option String) :
    optionalText? (some (ofString? text)) = some text := by
  cases text <;> rfl

@[simp]
theorem coordinate?_ofCoordinate (a : Coordinate) : (ofCoordinate a).coordinate? = some a := by
  rw [ofCoordinate, coordinate?, Coordinate.ofNat?_toNat]

@[simp]
theorem legible_ofCoordinate (a : Coordinate) : Legible (ofCoordinate a) :=
  legible_natural a.toNat

end Json

/-! ## Spans, locations and records -/

@[simp]
theorem Span.ofJson?_toJson (s : Span) : Span.ofJson? s.toJson = some s := by
  have hnames : fieldNames.Nodup := by decide
  have hmembers : s.toJson.members? fieldNames = some _ := Json.members?_record hnames
  simp [ofJson?, hmembers]

@[simp]
theorem Span.legible_toJson (s : Span) : s.toJson.Legible := by
  refine Json.legible_record ?_
  simp

@[simp]
theorem Location.ofJson?_toJson (l : Location) : Location.ofJson? l.toJson = some l := by
  cases l with
  | known span => simp [toJson, ofJson?, Json.record, Json.variant?]
  | placeholder description => simp [toJson, ofJson?, Json.record, Json.variant?]

@[simp]
theorem Location.legible_toJson (l : Location) : l.toJson.Legible := by
  cases l with
  | known span => exact Json.legible_record (List.forall_mem_singleton.mpr span.legible_toJson)
  | placeholder description =>
    exact Json.legible_record (List.forall_mem_singleton.mpr (Json.legible_ofString description))

@[simp]
theorem Namespace.ofIdentifier?_identifier (space : Namespace) :
    ofIdentifier? space.identifier = some space := by
  cases space <;> decide

@[simp]
theorem Use.ofIdentifier?_identifier (use : Use) : ofIdentifier? use.identifier = some use := by
  cases use <;> decide

@[simp]
theorem Record.ofJson?_toJson (r : Record) : Record.ofJson? r.toJson = some r := by
  have hnames : fieldNames.Nodup := by decide
  have hmembers : r.toJson.members? fieldNames = some _ := Json.members?_record hnames
  have hunit : ∀ name, (Json.ofString name).unitVariant? = some name := fun _ => rfl
  simp [ofJson?, hmembers, hunit]

@[simp]
theorem Record.legible_toJson (r : Record) : r.toJson.Legible := by
  refine Json.legible_record ?_
  simp

@[simp]
theorem Entry.ofJson?_toJson (e : Entry) : Entry.ofJson? (Entry.toJson e) = some e := by
  simp [Entry.toJson, Entry.ofJson?]

@[simp]
theorem Entry.legible_toJson (e : Entry) : (Entry.toJson e).Legible :=
  Json.legible_array (List.forall_mem_cons.mpr
    ⟨e.1.legible_toJson, List.forall_mem_singleton.mpr e.2.legible_toJson⟩)

namespace Index

/-! ## Indices -/

theorem ofPairs_entries (index : Index) : ofPairs index.entries = index :=
  ofPairs_of_perm (.refl _)

theorem ofJson?_toJson (index : Index) : ofJson? index.toJson = some index := by
  have hpairs : pairsOfJson? index.toJson = some index.entries :=
    mapM_map_eq_some Entry.ofJson?_toJson index.entries
  rw [ofJson?, hpairs, Option.map_some, ofPairs_entries]

/-- The order of pairs at different spans does not matter. -/
theorem ofPairs_congr {pairs pairs' : List Entry}
    (h : ∀ s, pairs.filter (fun e => e.1 = s) = pairs'.filter fun e => e.1 = s) :
    ofPairs pairs = ofPairs pairs' := by
  refine ext_get? fun s => ?_
  rw [get?_ofPairs_eq_lastAt?, get?_ofPairs_eq_lastAt?, ← Entry.lastAt?_filter pairs, h,
    Entry.lastAt?_filter]

/-! ## Reading and writing -/

/-- A reader and a writer of JSON text by which the values of indices are read as they were
written. -/
structure Codec where
  parse? : String → Option Json
  render : Json → String
  parse?_render : ∀ index : Index, parse? (render index.toJson) = some index.toJson

namespace Codec

variable (codec : Codec)

/-- The index that is written in a text. -/
def read? (text : String) : Option Index :=
  (codec.parse? text).bind ofJson?

/-- The text of an index. -/
def write (index : Index) : String :=
  codec.render index.toJson

/-- The text is an array of these pairs, in this order. -/
def Holds (text : String) (pairs : List Entry) : Prop :=
  ∃ items, codec.parse? text = some (.array items) ∧
    List.Forall₂ (fun item e => Entry.ofJson? item = some e) items pairs

/-- An index is read back from its text. -/
theorem read?_write (index : Index) : codec.read? (codec.write index) = some index := by
  rw [read?, write, codec.parse?_render, Option.bind_some, ofJson?_toJson]

/-- Different indices are written differently. -/
theorem write_inj {a b : Index} : codec.write a = codec.write b ↔ a = b := by
  refine ⟨fun h => ?_, congrArg codec.write⟩
  rw [← Option.some_inj, ← codec.read?_write a, h, codec.read?_write]

/-- A text is read as the index of the pairs that it holds, and is not read if it is no array of
pairs. -/
theorem read?_eq_some_iff {text : String} {index : Index} :
    codec.read? text = some index ↔ ∃ pairs, codec.Holds text pairs ∧ ofPairs pairs = index := by
  rw [read?, Option.bind_eq_some_iff]
  constructor
  · rintro ⟨value, hvalue, hindex⟩
    obtain ⟨pairs, hpairs, rfl⟩ := Option.map_eq_some_iff.mp hindex
    cases value with
    | array items => exact ⟨pairs, ⟨items, hvalue, mapM_eq_some_iff.mp hpairs⟩, rfl⟩
    | null | bool | natural | number | string | object => cases hpairs
  · rintro ⟨pairs, ⟨items, hvalue, hitems⟩, rfl⟩
    have hpairs : pairsOfJson? (.array items) = some pairs := mapM_eq_some_iff.mpr hitems
    refine ⟨.array items, hvalue, ?_⟩
    rw [ofJson?, hpairs, Option.map_some]

/-- Whatever reads and writes JSON, indices are written without loss and in one way only, if their
values are read as they were written. -/
theorem lossless_canonical :
    (∀ index : Index, codec.read? (codec.write index) = some index ∧
      codec.parse? (codec.write index) =
        some (.array (index.entries.map fun e => .array [e.1.toJson, e.2.toJson])) ∧
      index.entries.Pairwise fun a b => a.1.sortKey < b.1.sortKey) ∧
    (∀ text index, codec.read? text = some index →
      codec.read? (codec.write index) = some index ∧
      ∃ pairs, codec.Holds text pairs ∧ ofPairs pairs = index) ∧
    (∀ text pairs, codec.Holds text pairs → ∃ index, codec.read? text = some index ∧
      ofPairs pairs = index ∧ ∀ s, index.get? s = Entry.lastAt? pairs s) ∧
    (∀ text text' pairs pairs', codec.Holds text pairs → codec.Holds text' pairs' →
      (∀ s, pairs.filter (fun e => e.1 = s) = pairs'.filter fun e => e.1 = s) →
      codec.read? text = codec.read? text') ∧
    (∀ text text' index index', codec.read? text = some index →
      codec.read? text' = some index' →
      (index = index' ↔ codec.write index = codec.write index')) := by
  refine ⟨fun index => ⟨codec.read?_write index, codec.parse?_render index,
    index.sorted.imp Span.sortKey_lt_iff.mpr⟩, fun text index h => ?_, fun text pairs h => ?_,
    fun text text' pairs pairs' h h' hsame => ?_,
    fun _ _ index index' _ _ => codec.write_inj.symm⟩
  · exact ⟨codec.read?_write index, codec.read?_eq_some_iff.mp h⟩
  · exact ⟨ofPairs pairs, codec.read?_eq_some_iff.mpr ⟨pairs, h, rfl⟩, rfl,
      get?_ofPairs_eq_lastAt? pairs⟩
  · rw [codec.read?_eq_some_iff.mpr ⟨pairs, h, rfl⟩,
      codec.read?_eq_some_iff.mpr ⟨pairs', h', rfl⟩, ofPairs_congr hsame]

/-- The reader and the writer of this library. -/
def json : Codec where
  parse? := Json.parse?
  render := Json.render
  parse?_render _ := Json.parse?_render <| Json.legible_array <|
    List.forall_mem_map.mpr fun e _ => Entry.legible_toJson e

end Codec

/-- The text is an array of these pairs, in this order. -/
def Holds (text : String) (pairs : List Entry) : Prop :=
  ∃ items, Json.parse? text = some (.array items) ∧
    List.Forall₂ (fun item e => Entry.ofJson? item = some e) items pairs

/-- Indices are written without loss and in one way only. Every index is read back from its text,
which is the array of its entries in ascending order. A text is read exactly if it is an array of
pairs: as the index of these pairs, of which the last at each span counts, while the order of pairs
at different spans does not matter. What was read is read again from its own text, and two texts
denote one index exactly if what is written of both is the same. -/
theorem jsonText_lossless_canonical :
    (∀ index : Index, ofJsonText? index.toJsonText = some index ∧
      Json.parse? index.toJsonText =
        some (.array (index.entries.map fun e => .array [e.1.toJson, e.2.toJson])) ∧
      index.entries.Pairwise fun a b => a.1.sortKey < b.1.sortKey) ∧
    (∀ text index, ofJsonText? text = some index →
      ofJsonText? index.toJsonText = some index ∧
      ∃ pairs, Holds text pairs ∧ ofPairs pairs = index) ∧
    (∀ text pairs, Holds text pairs → ∃ index, ofJsonText? text = some index ∧
      ofPairs pairs = index ∧ ∀ s, index.get? s = Entry.lastAt? pairs s) ∧
    (∀ text text' pairs pairs', Holds text pairs → Holds text' pairs' →
      (∀ s, pairs.filter (fun e => e.1 = s) = pairs'.filter fun e => e.1 = s) →
      ofJsonText? text = ofJsonText? text') ∧
    (∀ text text' index index', ofJsonText? text = some index →
      ofJsonText? text' = some index' →
      (index = index' ↔ index.toJsonText = index'.toJsonText)) :=
  Codec.json.lossless_canonical

/-- A text with two pairs at one span, and structures written as arrays. The second record counts,
and is read back from what is written of the index. -/
theorem jsonText_overwritten :
    let s := Span.onLine "T" 1 1 1
    let y : Record := ⟨"y", none, none, .value, none, .placeholder "", .binding⟩
    let text := "[[[\"T\",1,1,1,1],
        [\"x\",null,null,\"Value\",null,\x7b\"Opaque\":\"\"\x7d,\"Binding\"]],
      [[\"T\",1,1,1,1],[\"y\",null,null,\"Value\",null,\x7b\"Opaque\":\"\"\x7d,\"Binding\"]]]"
    let index := ofPairs [(s, y)]
    ofJsonText? text = some index ∧ (∃ pairs, Holds text pairs ∧ ofPairs pairs = index) ∧
      ofJsonText? index.toJsonText = some index ∧ index.get? s = some y := by
  intro s y text index
  have hread : ofJsonText? text = some index := by decide +kernel
  obtain ⟨hagain, hpairs⟩ := jsonText_lossless_canonical.2.1 text index hread
  exact ⟨hread, hpairs, hagain, by decide +kernel⟩

end Index

end Xref
