import Xref.Index.Basic

/-!
# Going to a definition

The places where the names at a position are defined, from the innermost name outwards, each place
once. A name that is bound there, or that is defined nowhere in source text, leads nowhere.
-/

namespace Xref

/-- A place where a name is defined. -/
structure Target where
  name : String
  span : Span
deriving DecidableEq

/-- Where a reference leads. -/
def Record.target? (r : Record) : Option Target :=
  if r.use.isBinding then none else r.definition.span?.map fun span => ⟨r.name, span⟩

namespace Target

/-- Adds a target at the end, unless there is one for its span. -/
def addNew (targets : List Target) (t : Target) : List Target :=
  if targets.any fun other => other.span = t.span then targets else targets ++ [t]

/-- Of the targets of one span only the first, in order. -/
def distinct (targets : List Target) : List Target :=
  targets.foldl addNew []

end Target

/-- The entries at a position by extent, entries of one extent in the order of their spans. -/
def Index.nestedAt (index : Index) (p : Position) : List Entry :=
  (index.entriesAt p).mergeSort fun a b => decide (a.1.extent ≤ b.1.extent)

/-- Where the names at a position are defined. -/
def Index.definitionsAt (index : Index) (p : Position) : List Target :=
  Target.distinct ((index.nestedAt p).filterMap fun e => e.2.target?)

end Xref
