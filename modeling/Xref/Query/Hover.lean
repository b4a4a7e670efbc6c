import Xref.Index.Basic
import Xref.Text.Identifier

/-!
# Hovering over a name

What an editor shows about the innermost name at a position: the name with its type, and where it
comes from.
-/

namespace Xref

namespace Record

/-- The name as it is shown: an operator goes between parentheses. -/
def shownName (r : Record) : String :=
  if Text.isOperator r.name then "(" ++ r.name ++ ")" else r.name

/-- The name with its type, if that is known. -/
def signature (r : Record) : String :=
  match r.type with
  | some type => r.shownName ++ " :: " ++ type
  | none => r.shownName

/-- Where the name comes from: its module and package, or else the start of its definition. -/
def origin? (r : Record) : Option String :=
  match r.moduleName, r.packageName with
  | some m, some p => some ("*Defined in* `" ++ m ++ "` *(" ++ p ++ ")*")
  | some m, none => some ("*Defined in* `" ++ m ++ "`")
  | none, _ =>
    r.definition.span?.map fun span => "*Defined at* " ++ span.file ++ ":" ++ span.start.text

/-- The text shown about the name, in Markdown. -/
def hoverText (r : Record) : String :=
  "```haskell\n" ++ r.signature ++ "\n```" ++
    (match r.origin? with
      | some origin => "\n\n---\n\n" ++ origin
      | none => "")

end Record

/-- A text about an occurrence. -/
structure Hover where
  contents : String
  span : Span
deriving DecidableEq

/-- What is shown at a position. -/
def Index.hover (index : Index) (p : Position) : Option Hover :=
  (index.innermostAt p).map fun e => ⟨e.2.hoverText, e.1⟩

end Xref
