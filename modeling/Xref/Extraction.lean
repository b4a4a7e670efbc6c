import Xref.Indexing.Module

/-!
# Extraction

The index of a source file is made of both its trees. The type checker knows more, so its records
count where both trees have one; the renamed tree fills the rest. When either tree cannot be
indexed there is no index at all, and the error of the renamed tree is the one that is told.

The results of many files are kept by path, in a list of pairs that stands for a map of the library
`indexmap`. `setKey` does what is documented of its `insert`: a key that is there keeps its place
and gets the new value, and a new key comes last.
-/

namespace Xref

/-- Why a file has no index. -/
structure ExtractionError where
  phase : Phase
  cause : TraversalError
deriving DecidableEq

/-- What a reader is told about an error. -/
def ExtractionError.message (e : ExtractionError) : String :=
  "identifier extraction failed in the " ++ e.phase.name ++ " tree: " ++ e.cause.message

/-- The two trees of a file. -/
structure SourceFile (T : Type) where
  path : String
  renamed : Module Name
  typechecked : Module (TypedName T)

variable {T : Type}

/-- Indexes both trees of a file, and reports what was left out of the renamed one, then of the
type-checked one. -/
def extractWithReports (renamed : Module Name) (typechecked : Module (TypedName T))
    (render : T → String) (config : Config) : Except ExtractionError Indexed := do
  let first ← (renamed.indexed .resolved config .renamed).mapError (⟨.renamed, ·⟩)
  let second ← (typechecked.indexed (.typed render) config .typechecked).mapError
    (⟨.typechecked, ·⟩)
  return ⟨second.index.combine first.index, first.diagnostics ++ second.diagnostics⟩

/-- The index of both trees of a file. -/
def extract (renamed : Module Name) (typechecked : Module (TypedName T))
    (render : T → String) (config : Config) : Except ExtractionError Index :=
  (extractWithReports renamed typechecked render config).map Indexed.index

/-- The index of both trees of a file, if there is one. -/
def extract? (renamed : Module Name) (typechecked : Module (TypedName T))
    (render : T → String) (config : Config) : Option Index :=
  (extract renamed typechecked render config).toOption

/-- Sets the value of a key: in its old place if the key is there, at the end if it is not. -/
def setKey {α β : Type} [DecidableEq α] (key : α) (value : β) : List (α × β) → List (α × β)
  | [] => [(key, value)]
  | (k, v) :: rest => if k = key then (key, value) :: rest else (k, v) :: setKey key value rest

/-- The index of each file, or why it has none, by path. Paths come in the order in which they first
occur; of several files with one path the last counts. -/
def extractAll (files : List (SourceFile T)) (render : T → String) (config : Config) :
    List (String × Except ExtractionError Index) :=
  files.foldl
    (fun results file =>
      setKey file.path (extract file.renamed file.typechecked render config) results)
    []

end Xref
