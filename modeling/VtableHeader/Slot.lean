import VtableHeader.Class
import VtableHeader.GenError

/-!
# Slots of a vtable

A slot is a method as seen from a class, together with the class whose
implementation it is bound to.  The slots of a class are those of its base, with
overridden ones rebound, followed by its new methods.  Overridden slots move
behind the ones that are kept.
-/

namespace VtableHeader

/-- One function pointer of a vtable. -/
structure Slot where
  /-- The signature of the bound implementation. -/
  method : Method
  /-- The class whose static function the slot points to. -/
  declaredBy : ClassRef
  deriving DecidableEq, Repr

namespace Class

/-- Refuse a method whose mark disagrees with what is inherited. -/
def checkOverride (decl : Class) (inherited : List Slot) (method : Method) :
    Except GenError Unit :=
  let isInherited := inherited.any (·.method.name == method.name)
  if method.isOverride && !isInherited then
    .error (.danglingOverride decl.qualifiedName method.name)
  else if !method.isOverride && isInherited then
    .error (.unmarkedOverride decl.qualifiedName method.name)
  else .ok ()

/-- The method that replaces an inherited one of the given name; of several, the
last one counts. -/
def overrideOf? (decl : Class) (name : String) : Option Method :=
  (decl.methods.filter (·.isOverride)).reverse.find? (·.name == name)

/-- Inherited slots that the class leaves as they are. -/
def keptSlots (decl : Class) (inherited : List Slot) : List Slot :=
  inherited.filter fun slot => (decl.overrideOf? slot.method.name).isNone

/-- Inherited slots that the class overrides, bound to its own methods. -/
def reboundSlots (decl : Class) (inherited : List Slot) : List Slot :=
  inherited.filterMap fun slot =>
    (decl.overrideOf? slot.method.name).map fun method => ⟨method, decl.ref⟩

/-- Slots for methods that no base class has. -/
def newSlots (decl : Class) : List Slot :=
  (decl.methods.filter (!·.isOverride)).map fun method => ⟨method, decl.ref⟩

/-- The slots of a class that inherits the given ones. -/
def effectiveSlots (decl : Class) (inherited : List Slot) : Except GenError (List Slot) := do
  decl.methods.forM (decl.checkOverride inherited)
  return decl.keptSlots inherited ++ decl.reboundSlots inherited ++ decl.newSlots

end Class

end VtableHeader
