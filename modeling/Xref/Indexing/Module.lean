import Xref.Diagnostic
import Xref.Indexing.Trace

/-!
# Indexing a tree

The index of a module is that of the entries on the trace of a walk through it, later entries over
earlier ones. What the walk passed over is reported.
-/

namespace Xref

/-- An index, with reports of what was left out of it. -/
structure Indexed where
  index : Index
  diagnostics : List Diagnostic
deriving DecidableEq

/-- The index of a trace, with its gaps reported as of the given phase. -/
def Trace.indexed (phase : Phase) (t : Trace) : Indexed :=
  ⟨.ofPairs t.entries, t.gaps.map (Gap.diagnostic phase)⟩

/-- Indexes a tree. The phase only labels the reports. -/
def Module.indexed {I : Type} (m : Module I) (reading : Reading I) (config : Config)
    (phase : Phase) : Except TraversalError Indexed :=
  (m.outline.trace reading config).map (Trace.indexed phase)

end Xref
