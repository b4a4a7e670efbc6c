import Xref.Text.Blank

/-!
# Strict and lenient mode

The mode says what becomes of a construct that cannot be indexed.
-/

namespace Xref

/-- What to do with a construct that cannot be indexed. -/
inductive Mode where
  /-- Fail. -/
  | strict
  /-- Leave it out and report it. -/
  | lenient
deriving DecidableEq

namespace Mode

/-- The name of a mode in settings. -/
def name : Mode → String
  | strict => "strict"
  | lenient => "lenient"

/-- The mode of the given name, in letters of either case and with blanks around it. -/
def parse? (text : String) : Option Mode :=
  let folded := Text.fold text
  if folded = "strict" then some strict
  else if folded = "lenient" then some lenient
  else none

end Mode

end Xref
