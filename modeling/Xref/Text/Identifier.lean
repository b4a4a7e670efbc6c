import Xref.Text.Identifier.Start
import Xref.Text.Identifier.Continue

/-!
# Identifiers and operators

A name is spelled like an identifier when it begins with a letter or an underscore and goes on with
letters, marks, digits and apostrophes. Any other name that is not empty is an operator.

`isStart` and `isContinue` stand for the two tests of the library `unicode-ident`, which answer for
the properties `XID_Start` and `XID_Continue` of Unicode.
-/

namespace Xref.Text

namespace Identifier

/-- The code point of `c` lies in one of the ranges. -/
def inRanges (ranges : List (Nat × Nat)) (c : Char) : Bool :=
  ranges.any fun (first, last) => decide (first ≤ c.toNat) && decide (c.toNat ≤ last)

/-- The character may begin an identifier (`XID_Start`). -/
def isStart (c : Char) : Bool :=
  inRanges startRanges c

/-- The character may continue an identifier (`XID_Continue`). -/
def isContinue (c : Char) : Bool :=
  isStart c || inRanges continueOnlyRanges c

end Identifier

/-- The name is an operator: it is not empty and not spelled like an identifier. -/
def isOperator (name : String) : Bool :=
  match name.toList with
  | [] => false
  | first :: rest =>
    !((first = '_' || Identifier.isStart first) &&
      rest.all fun c => c = '\x27' || Identifier.isContinue c)

end Xref.Text
