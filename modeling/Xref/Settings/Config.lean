import Xref.Settings.Mode
import Xref.Settings.Support

/-!
# Settings of an extraction

The settings are the mode, whether names are marked with the path of shapes that leads to them, and
the supported shapes. The first two can be given as the values of two variables.
-/

namespace Xref

/-- The settings of one extraction. -/
structure Config where
  mode : Mode := .lenient
  /-- Names that are defined nowhere in source text are marked with the shapes around them. -/
  breadcrumbs : Bool := false
  support : Support := .full
deriving DecidableEq

namespace Config

/-- The text is a word for yes, in letters of either case and with blanks around it. -/
def isAffirmative (text : String) : Bool :=
  ["1", "true", "yes", "on"].contains (Text.fold text)

/-- The settings given by the values of the variables for the mode and for breadcrumbs. A variable
that is not set, and a mode that has no such name, leave the default; any value for breadcrumbs
that is not a word for yes turns them off. -/
def ofVariables (mode breadcrumbs : Option String) : Config where
  mode := (mode.bind Mode.parse?).getD .lenient
  breadcrumbs := (breadcrumbs.map isAffirmative).getD false

/-- The settings given by the bytes of the two variables. Bytes that are not UTF-8 count as no
value. -/
def ofVariableBytes (mode breadcrumbs : Option ByteArray) : Config :=
  ofVariables (mode.bind String.fromUTF8?) (breadcrumbs.bind String.fromUTF8?)

end Config

end Xref
