import Xref.Indexing.Gap
import Xref.Settings.Config
import Xref.Index.Basic
import Xref.Tree.Outline

/-!
# Walking an outline

A walk goes through an outline in order and leaves a trace: the entries of the names it met and the
gaps it passed over. A node whose shape is not supported is a gap with all that it holds, and a name
without a known place is a gap. In strict mode the first gap is an error. A name with an unknown tag
is an error in either mode, wherever it stands.

With breadcrumbs on, a record that is defined nowhere in source text has the shapes of the nodes
around it written before its name, the outermost first.

Here a node marks the trace of what it holds before that is put after the trace so far. A walk that
adds to the entries found so far, and marks those that came since a node was entered, leaves the
same trace (`Module.indexed_eq_collect`).
-/

namespace Xref

/-- What a walk found, in the order of the text. -/
structure Trace where
  entries : List Entry
  gaps : List Gap
deriving DecidableEq

namespace Trace

/-- The trace of a walk that met nothing. -/
def empty : Trace :=
  ⟨[], []⟩

/-- One trace after the other. -/
def append (s t : Trace) : Trace :=
  ⟨s.entries ++ t.entries, s.gaps ++ t.gaps⟩

instance : Append Trace := ⟨append⟩

/-- Passes over a gap, where the mode allows it. -/
def skip (mode : Mode) (gap : Gap) : Except TraversalError Trace :=
  match mode with
  | .strict => .error (.gap gap)
  | .lenient => .ok ⟨[], [gap]⟩

end Trace

/-- Writes a shape before the name of a record that is defined nowhere in source text. -/
def Record.mark (shape : Shape) (r : Record) : Record :=
  if r.definition.isKnown then r else { r with name := shape.name ++ "/" ++ r.name }

/-- Leaves a breadcrumb of the given shape on all entries, if the settings ask for it. -/
def Trace.mark (config : Config) (shape : Shape) (t : Trace) : Trace :=
  if config.breadcrumbs then
    { t with entries := t.entries.map fun e => (e.1, e.2.mark shape) }
  else t

variable {I : Type}

/-- The record of an occurrence of `ident`, or the error that its tag is unknown. -/
def Reading.record (reading : Reading I) (use : Use) (ident : I) : Except TraversalError Record :=
  match reading.record? use ident with
  | some record => .ok record
  | none => .error (.unknownTag (reading.name ident).tag (reading.name ident).text)

/-- The trace of one name. The tag is looked at before the location. -/
def Reading.trace (reading : Reading I) (mode : Mode) (use : Use) (ident : Located I) :
    Except TraversalError Trace := do
  let record ← reading.record use ident.node
  match ident.loc with
  | .known span => .ok ⟨[(span, record)], []⟩
  | .placeholder description => Trace.skip mode (.imprecise record.name description)

/-- The trace of a walk through an outline. -/
def Outline.trace (reading : Reading I) (config : Config) :
    Outline I → Except TraversalError Trace
  | nil => .ok .empty
  | name use ident rest => do
    let first ← reading.trace config.mode use ident
    let others ← rest.trace reading config
    return first ++ others
  | node shape loc inner rest => do
    let first ←
      if config.support.supports shape then
        (inner.trace reading config).map (Trace.mark config shape)
      else
        Trace.skip config.mode (.unsupported shape loc)
    let others ← rest.trace reading config
    return first ++ others

end Xref
