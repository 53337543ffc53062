/-!
# Options of the generated header

The runtime header provides the type of class objects; its namespace is opened
for all of the generated code.
-/

namespace VtableHeader

/-- What the preamble names and how wide one level of indentation is. -/
structure Options where
  runtimeHeader : String := "java_lang.h"
  runtimeNamespace : List String := ["java", "lang"]
  indentWidth : Nat := 4
  deriving DecidableEq, Repr

/-- The text of one level of indentation. -/
def Options.indentUnit (options : Options) : String :=
  String.ofList (List.replicate options.indentWidth ' ')

end VtableHeader
