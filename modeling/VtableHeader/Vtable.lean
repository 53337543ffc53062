import VtableHeader.Layout
import VtableHeader.Slot

/-!
# Vtable structs

The vtable struct of a class declares one function pointer for each slot, after
the class object, and its constructor binds them in the same order.  Every
pointer takes the class itself as receiver; an inherited implementation takes an
ancestor, so its address is cast to the type of the pointer.
-/

namespace VtableHeader

/-- The data struct of a class as seen from code inside `viewpoint`. -/
def ClassRef.structPath (ref : ClassRef) (viewpoint : NamespacePath) : String :=
  if ref.path = viewpoint then dataName ref.name
  else ref.path.qualifier ++ "::" ++ dataName ref.name

/-- The parameter types of a slot's pointer in the vtable of `receiver`. -/
def Slot.pointerParams (slot : Slot) (receiver : String) : String :=
  ", ".intercalate (receiver :: slot.method.params.map (·.typeName))

/-- The member that holds a slot. -/
def Slot.memberDeclaration (slot : Slot) (receiver : String) : String :=
  slot.method.returnType ++ " (*" ++ slot.method.name ++ ")(" ++ slot.pointerParams receiver ++ ");"

/-- The address that a slot is bound to. -/
def Slot.target (slot : Slot) (viewpoint : NamespacePath) : String :=
  "&" ++ slot.declaredBy.structPath viewpoint ++ "::" ++ slot.method.name

/-- The value of a slot in the vtable of `owner`; an implementation of another
class is cast. -/
def Slot.binding (slot : Slot) (owner : ClassRef) : String :=
  if slot.declaredBy = owner then slot.target owner.path
  else
    "(" ++ slot.method.returnType ++ "(*)(" ++ slot.pointerParams owner.name ++ "))" ++
      slot.target owner.path

/-- The initializer of a slot. -/
def Slot.initializer (slot : Slot) (owner : ClassRef) : String :=
  slot.method.name ++ "(" ++ slot.binding owner ++ ")"

/-- A comma after every item but the last. -/
def commaSeparated : List String → List String
  | [] => []
  | [last] => [last]
  | item :: rest => (item ++ ",") :: commaSeparated rest

/-- A colon before the first item, and room for one before the others. -/
def colonLed : List String → List String
  | [] => []
  | first :: rest => (": " ++ first) :: rest.map ("  " ++ ·)

namespace Class

/-- The members of the vtable struct. -/
def vtableMembers (decl : Class) (slots : List Slot) : List String :=
  "Class __is_a;" :: slots.map (·.memberDeclaration decl.name)

/-- What the constructor of the vtable struct initializes. -/
def vtableInitializers (decl : Class) (slots : List Slot) : List String :=
  ("__is_a(" ++ dataName decl.name ++ "::__class())") :: slots.map (·.initializer decl.ref)

/-- The definition of the vtable struct. -/
def vtableBlock (decl : Class) (slots : List Slot) : List Line :=
  [{ text := "struct " ++ vtableName decl.name ++ " \x7b" }] ++
    (decl.vtableMembers slots).map (Line.mk 1) ++
    [.blank, ⟨1, vtableName decl.name ++ "()"⟩] ++
    (colonLed (commaSeparated (decl.vtableInitializers slots))).map (Line.mk 1) ++
    [⟨1, "\x7b\x7d"⟩, { text := "\x7d;" }, .blank]

end Class

end VtableHeader
