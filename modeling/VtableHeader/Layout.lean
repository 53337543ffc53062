import VtableHeader.Class.Check
import VtableHeader.Sections

/-!
# Layout of a class

A class becomes a data struct, a vtable struct and a pointer typedef.  Methods
are static functions whose first parameter is the receiver, so that they can be
stored as plain function pointers.  This module gives the blocks for the forward
declarations and for the body of the data struct.
-/

namespace VtableHeader

/-- The data struct of a class. -/
def dataName (className : String) : String :=
  "__" ++ className

/-- The vtable struct of a class. -/
def vtableName (className : String) : String :=
  "__" ++ className ++ "_VT"

/-- The name of the parameter at `index`: its own, or one made of the position. -/
def Param.nameAt (param : Param) (index : Nat) : String :=
  if param.name.isEmpty then "p" ++ toString index else param.name

/-- The parameters of a static function: the receiver, then those of the
method. -/
def Method.paramDeclarations (method : Method) (owner : String) : List String :=
  (owner ++ " " ++ Class.receiverName) ::
    method.params.mapIdx fun index param => param.typeName ++ " " ++ param.nameAt index

/-- The declaration of the static function of a method. -/
def Method.declaration (method : Method) (owner : String) : String :=
  "static " ++ method.returnType ++ " " ++ method.name ++ "(" ++
    ", ".intercalate (method.paramDeclarations owner) ++ ");"

namespace Class

/-- Forward declarations of both structs, and the pointer typedef. -/
def forwardBlock (decl : Class) : List Line :=
  [{ text := "struct " ++ dataName decl.name ++ ";" },
    { text := "struct " ++ vtableName decl.name ++ ";" },
    { text := "typedef " ++ dataName decl.name ++ "* " ++ decl.name ++ ";" },
    .blank]

/-- The members of the data struct: the vtable pointer, the constructor, the
fields, the methods, the class object and the vtable. -/
def bodyMembers (decl : Class) : List String :=
  [vtableName decl.name ++ "* __vptr;", dataName decl.name ++ "();"] ++
    decl.fields.map (fun field => field.typeName ++ " " ++ field.name ++ ";") ++
    decl.methods.map (fun method => method.declaration decl.name) ++
    ["static Class __class();", "static " ++ vtableName decl.name ++ " __vtable;"]

/-- The definition of the data struct. -/
def bodyBlock (decl : Class) : List Line :=
  [{ text := "struct " ++ dataName decl.name ++ " \x7b" }] ++
    decl.bodyMembers.map (Line.mk 1) ++
    [{ text := "\x7d;" }, .blank]

end Class

end VtableHeader
