import Xref.Index.Basic
import Xref.Json.Parser

/-!
# The interchange form of an index

An index is written as a JSON array of pairs, a span and a record each, in the order of the spans.
A reader is more tolerant than the writer: fields may come in any order, fields of other names are
passed over whatever they hold, fields that may be null may be left out, a structure may be written
as the array of its fields, and pairs may come in any order, with the last one of a span counting.

This is the form that the library `serde` derives: structures by the names of their fields, variants
that hold nothing by their names alone, and all others as an object with one field.
-/

namespace Xref

namespace Json

/-! ## Structures and variants -/

/-- The values of the named fields, `none` for a field that is left out. No named field may come
twice, and every key must be text. An array must hold all fields, in order. -/
def members? (names : List String) : Json → Option (List (Option Json))
  | array items => if items.length = names.length then some (items.map some) else none
  | object fields =>
    if fields.all fun field => field.1.isSome then
      names.mapM fun name =>
        match fields.filter fun field => field.1 = some name with
        | [] => some none
        | [(_, value)] => some (some value)
        | _ => none
    else none
  | _ => none

/-- The name of a variant, with what it holds. -/
def variant? : Json → Option (String × Option Json)
  | string (some name) => some (name, none)
  | object [(some name, value)] => some (name, some value)
  | _ => none

/-- The name of a variant that holds nothing, which may be written as null. -/
def unitVariant? (value : Json) : Option String :=
  match value.variant? with
  | some (name, none) => some name
  | some (name, some null) => some name
  | _ => none

/-- The text of a string. -/
def text? : Json → Option String
  | string text => text
  | _ => none

/-- A text that may be left out or null. -/
def optionalText? : Option Json → Option (Option String)
  | none => some none
  | some null => some none
  | some value => value.text?.map some

/-- A line or column. -/
def coordinate? : Json → Option Coordinate
  | natural n => Coordinate.ofNat? n
  | _ => none

/-- The coordinate as a number. -/
def ofCoordinate (a : Coordinate) : Json :=
  natural a.toNat

end Json

/-! ## Spans and locations -/

/-- The names of the fields of a span. -/
def Span.fieldNames : List String :=
  ["file", "start_line", "start_col", "end_line", "end_col"]

/-- A span in interchange form. -/
def Span.toJson (s : Span) : Json :=
  .record
    [("file", .ofString s.file),
     ("start_line", .ofCoordinate s.start.line),
     ("start_col", .ofCoordinate s.start.col),
     ("end_line", .ofCoordinate s.stop.line),
     ("end_col", .ofCoordinate s.stop.col)]

/-- The span that a value stands for. -/
def Span.ofJson? (value : Json) : Option Span := do
  match ← value.members? fieldNames with
  | [some file, some startLine, some startCol, some endLine, some endCol] =>
    return ⟨← file.text?, ⟨← startLine.coordinate?, ← startCol.coordinate?⟩,
      ⟨← endLine.coordinate?, ← endCol.coordinate?⟩⟩
  | _ => none

/-- A location in interchange form. -/
def Location.toJson : Location → Json
  | known span => .record [("Precise", span.toJson)]
  | placeholder description => .record [("Opaque", .ofString description)]

/-- The location that a value stands for. -/
def Location.ofJson? (value : Json) : Option Location := do
  let (name, content) ← value.variant?
  let content ← content
  if name = "Precise" then (Span.ofJson? content).map known
  else if name = "Opaque" then content.text?.map placeholder
  else none

/-! ## Records -/

/-- The name of a name space in interchange form. -/
def Namespace.identifier : Namespace → String
  | value => "Value"
  | dataConstructor => "DataConstructor"
  | typeVariable => "TypeVariable"
  | typeOrClass => "TypeOrClass"

/-- The name space of the given name in interchange form. -/
def Namespace.ofIdentifier? (name : String) : Option Namespace :=
  [value, dataConstructor, typeVariable, typeOrClass].find? fun space => space.identifier = name

/-- The name of a use in interchange form. -/
def Use.identifier : Use → String
  | binding => "Binding"
  | reference => "Reference"

/-- The use of the given name in interchange form. -/
def Use.ofIdentifier? (name : String) : Option Use :=
  [binding, reference].find? fun use => use.identifier = name

/-- The names of the fields of a record. -/
def Record.fieldNames : List String :=
  ["name", "owning_module", "owning_package", "namespace", "resolved_type", "definition", "binding"]

/-- A record in interchange form. -/
def Record.toJson (r : Record) : Json :=
  .record
    [("name", .ofString r.name),
     ("owning_module", .ofString? r.moduleName),
     ("owning_package", .ofString? r.packageName),
     ("namespace", .ofString r.space.identifier),
     ("resolved_type", .ofString? r.type),
     ("definition", r.definition.toJson),
     ("binding", .ofString r.use.identifier)]

/-- The record that a value stands for. -/
def Record.ofJson? (value : Json) : Option Record := do
  match ← value.members? fieldNames with
  | [some name, moduleName, packageName, some space, type, some definition, some use] =>
    return {
      name := ← name.text?
      moduleName := ← Json.optionalText? moduleName
      packageName := ← Json.optionalText? packageName
      space := ← space.unitVariant?.bind Namespace.ofIdentifier?
      type := ← Json.optionalText? type
      definition := ← Location.ofJson? definition
      use := ← use.unitVariant?.bind Use.ofIdentifier? }
  | _ => none

/-! ## Indices -/

/-- An entry in interchange form. -/
def Entry.toJson (e : Entry) : Json :=
  .array [e.1.toJson, e.2.toJson]

/-- The entry that a value stands for. -/
def Entry.ofJson? : Json → Option Entry
  | .array [span, record] => do return (← Span.ofJson? span, ← Record.ofJson? record)
  | _ => none

namespace Index

/-- An index in interchange form. -/
def toJson (index : Index) : Json :=
  .array (index.entries.map Entry.toJson)

/-- The entries that a value stands for, in the order in which they are written. -/
def pairsOfJson? : Json → Option (List Entry)
  | .array items => items.mapM Entry.ofJson?
  | _ => none

/-- The index that a value stands for. -/
def ofJson? (value : Json) : Option Index :=
  (pairsOfJson? value).map ofPairs

/-- The index as JSON text. -/
def toJsonText (index : Index) : String :=
  index.toJson.render

/-- The index that is written in a text. -/
def ofJsonText? (text : String) : Option Index :=
  (Json.parse? text).bind ofJson?

/-- The index that is written in bytes. -/
def ofJsonBytes? (bytes : ByteArray) : Option Index :=
  (Json.parseBytes? bytes).bind ofJson?

end Index

end Xref
