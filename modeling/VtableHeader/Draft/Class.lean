import VtableHeader.Draft
import VtableHeader.Vtable

/-!
# Writing classes into a draft

Forward declarations and bodies go to the section of class declarations, vtables
to their own.  The slots of a class are computed before any of its vtable is
written, so that a vtable that cannot be written leaves no trace.
-/

namespace VtableHeader.Draft

/-- Write the forward declarations of a class. -/
def writeForward (draft : Draft) (decl : Class) : Draft :=
  draft.onSections (·.block .classDecls decl.forwardBlock)

/-- Write the body of a class. -/
def writeBody (draft : Draft) (decl : Class) : Draft :=
  draft.onSections (·.block .classDecls decl.bodyBlock)

/-- Write the vtable of a class that inherits the given slots, and answer its own
slots. -/
def writeVtable (draft : Draft) (decl : Class) (inherited : List Slot) :
    Except GenError (Draft × List Slot) := do
  let slots ← decl.effectiveSlots inherited
  return (draft.onSections (·.block .vtables (decl.vtableBlock slots)), slots)

end VtableHeader.Draft
