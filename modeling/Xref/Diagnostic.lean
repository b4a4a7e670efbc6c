import Xref.Indexing.Gap
import Xref.Phase

/-!
# Diagnostics

In lenient mode every gap is reported as a warning. A log gathers the diagnostics of one phase.
-/

namespace Xref

/-- How much a diagnostic matters. -/
inductive Severity where
  | error
  | warning
  | info
  | hint
deriving DecidableEq

/-- The number of a severity in the language server protocol. -/
def Severity.number : Severity → Nat
  | error => 1
  | warning => 2
  | info => 3
  | hint => 4

/-- A message about a place. -/
structure Diagnostic where
  location : Location
  /-- The tree that the message is about. -/
  phase : Phase
  severity : Severity
  code : Option String
  message : String
deriving DecidableEq

/-- The warning that reports a gap. -/
def Gap.diagnostic (phase : Phase) : Gap → Diagnostic
  | unsupported shape location =>
    { location, phase
      severity := .warning
      code := some "X0001"
      message := "skipped unsupported construct " ++ shape.name }
  | imprecise name description =>
    { location := .placeholder description
      phase
      severity := .warning
      code := some "X0002"
      message := "skipped '" ++ name ++ "': no precise location" }

/-- The diagnostics of one phase, in the order in which they came. -/
structure Log where
  phase : Phase
  diagnostics : List Diagnostic := []

namespace Log

/-- Adds a diagnostic. -/
def add (log : Log) (d : Diagnostic) : Log :=
  { log with diagnostics := log.diagnostics ++ [d] }

/-- Reports a gap. -/
def report (log : Log) (gap : Gap) : Log :=
  log.add (gap.diagnostic log.phase)

/-- The diagnostics with the given code. -/
def withCode (log : Log) (code : String) : List Diagnostic :=
  log.diagnostics.filter fun d => d.code = some code

/-- The number of warnings. -/
def warnings (log : Log) : Nat :=
  log.diagnostics.countP fun d => d.severity = .warning

/-- Takes all diagnostics out of the log. -/
def take (log : Log) : List Diagnostic × Log :=
  (log.diagnostics, { log with diagnostics := [] })

end Log

end Xref
