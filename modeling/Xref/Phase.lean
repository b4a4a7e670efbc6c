/-!
# The two trees of a file

The front end hands over two trees of each file: one after resolving names, one after checking
types.
-/

namespace Xref

/-- Which of the two trees of a file. -/
inductive Phase where
  | renamed
  | typechecked
deriving DecidableEq

/-- The name of the phase in messages. -/
def Phase.name : Phase → String
  | .renamed => "renamed"
  | .typechecked => "typechecked"

end Xref
