import Xref.Index.Basic

/-!
# Links to documentation

A name whose module and package are known has a place in the generated documentation: the page of
its module, where dots are written as hyphens, at an anchor that tells terms from types.
-/

namespace Xref

/-- The path of a name in the documentation. -/
def Record.docPath? (r : Record) : Option String := do
  let m ← r.moduleName
  let p ← r.packageName
  return p ++ "/" ++ m.map (fun c => if c = '.' then '-' else c) ++ ".html#" ++
    String.singleton r.space.anchorMark ++ ":" ++ r.name

/-- A link from an occurrence to documentation. -/
structure DocLink where
  span : Span
  target : String
  tooltip : String
deriving DecidableEq

/-- The link of an entry. -/
def Entry.docLink? (e : Entry) : Option DocLink :=
  e.2.docPath?.map fun target => ⟨e.1, target, "Documentation for " ++ e.2.qualifiedName⟩

/-- The links of all entries that have one, in the order of their spans. -/
def Index.docLinks (index : Index) : List DocLink :=
  index.entries.filterMap Entry.docLink?

end Xref
