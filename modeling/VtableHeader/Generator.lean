import VtableHeader.ClassUnit
import VtableHeader.Draft.Class
import VtableHeader.Generator.Action

/-!
# Generating a header

The generator writes classes step by step: forward declarations, bodies, vtables,
and the namespaces around them.

A whole unit is emitted in three passes over its classes, grouped by namespace:
all forward declarations, all bodies, all vtables.  Before the bodies the slots of
all classes are computed in the order of the unit, so that a base which comes too
late is found before any body is written.
-/

namespace VtableHeader

namespace Generator

/-- The preamble: the guard, the runtime header, and its namespace if it has
one. -/
def preamble (options : Options) (sections : Sections) : Sections :=
  let sections := sections.write .head "#pragma once" false 2
  let sections :=
    sections.write .head ("#include \"" ++ options.runtimeHeader ++ "\"") false 2
  if options.runtimeNamespace.isEmpty then sections
  else
    sections.write .head
      ("using namespace " ++ "::".intercalate options.runtimeNamespace ++ ";") false 2

/-- A generator that has written the preamble. -/
def start (options : Options) : Generator where
  options := options
  draft := { sections := preamble options { indentUnit := options.indentUnit } }

/-- Make `path` the current namespace; the global one changes nothing. -/
def openNamespace (path : NamespacePath) : Action Unit := do
  let (draft, _) ← require ((← current).draft.openNamespace path)
  onDraft fun _ => draft

/-- Close all namespaces. -/
def closeAll : Action Unit :=
  onDraft fun draft => draft.closeAll.1

/-- Refuse a class whose dotted name is taken. -/
def requireNew (decl : Class) : Action Unit := do
  require (if (← current).table.contains decl.qualifiedName then
    .error (.duplicateClass decl.qualifiedName) else .ok ())

/-- Refuse a class that has no forward declaration. -/
def requireDeclared (decl : Class) : Action Unit := do
  require (if (← current).table.contains decl.qualifiedName then .ok ()
    else .error (.bodyBeforeForward decl.qualifiedName))

/-- Check a class and write its forward declarations. -/
def declareForward (decl : Class) : Action Unit := do
  require decl.check
  requireNew decl
  onDraft (·.writeForward decl)
  onTable (·.insert decl)

/-- Write the body of a declared class. -/
def declareBody (decl : Class) : Action Unit := do
  requireDeclared decl
  onDraft (·.writeBody decl)

/-- Remember the slots of a declared class. -/
def storeSlots (decl : Class) (slots : List Slot) : Action Unit := do
  requireDeclared decl
  onTable (·.setSlots decl.qualifiedName slots)

/-- Write the vtable of a declared class, and answer its slots. -/
def declareVtable (decl : Class) : Action (List Slot) := do
  requireDeclared decl
  let inherited ← require ((← current).table.inheritedSlots decl)
  let (draft, slots) ← require ((← current).draft.writeVtable decl inherited)
  onDraft fun _ => draft
  storeSlots decl slots
  return slots

/-- Compute the slots of a declared class without writing anything. -/
def link (decl : Class) : Action Unit := do
  let inherited ← require ((← current).table.inheritedSlots decl)
  let slots ← require (decl.effectiveSlots inherited)
  storeSlots decl slots

/-! ## Whole units -/

/-- Switch to a namespace, the global one included, and leave an empty line after
the lines that this takes. -/
def enterNamespace (path : NamespacePath) : Action Unit := do
  let (entered, count) ← require ((← current).draft.enterNamespace path)
  onDraft fun _ => if 0 < count then entered.onSections (·.blank .head) else entered

/-- Classes by namespace; namespaces in the order of their first class. -/
def groups (classes : List Class) : List (NamespacePath × List Class) :=
  (classes.map (·.path)).eraseDups.map fun path => (path, classes.filter (·.path = path))

/-- Emit the classes of one group inside their namespace. -/
def emitGroup (emit : Class → Action Unit) (group : NamespacePath × List Class) :
    Action Unit := do
  onDraft Draft.flush
  enterNamespace group.1
  group.2.forM emit

/-- Emit the classes of all groups. -/
def emitGroups (emit : Class → Action Unit) (groups : List (NamespacePath × List Class)) :
    Action Unit :=
  groups.forM (emitGroup emit)

/-- Emit all classes of a unit. -/
def emitUnit (unit : ClassUnit) : Action Unit := do
  let groups := groups unit.classes
  emitGroups declareForward groups
  unit.classes.forM link
  emitGroups declareBody groups
  emitGroups (fun decl => discard (declareVtable decl)) groups

/-- Everything generated so far. -/
def render (generator : Generator) : String :=
  generator.draft.sections.render

/-- Close all namespaces and answer the finished header. -/
def finish (generator : Generator) : String :=
  generator.draft.flush.closeAll.1.sections.finish

/-- The header after all classes of a unit, or the error that prevents it. -/
def generate (generator : Generator) (unit : ClassUnit) : Except GenError String :=
  match generator.perform (emitUnit unit) with
  | (.ok _, finished) => .ok finished.finish
  | (.error error, _) => .error error

/-- A step that a caller may ask for. -/
inductive Step where
  | openNamespace (path : NamespacePath)
  | closeAll
  | forward (decl : Class)
  | body (decl : Class)
  | vtable (decl : Class)
  | wholeUnit (unit : ClassUnit)
  deriving DecidableEq, Repr

/-- The action of a step; a vtable answers its slots. -/
def Step.action : Step → Action (Option (List Slot))
  | .openNamespace path => do Generator.openNamespace path; return none
  | .closeAll => do Generator.closeAll; return none
  | .forward decl => do declareForward decl; return none
  | .body decl => do declareBody decl; return none
  | .vtable decl => do return some (← declareVtable decl)
  | .wholeUnit unit => do emitUnit unit; return none

/-- The generator after a step, whether the step fails or not. -/
def after (generator : Generator) (step : Step) : Generator :=
  (generator.perform step.action).2

end Generator

/-- The header for the classes of a unit. -/
def ClassUnit.header (unit : ClassUnit) (options : Options) : Except GenError String :=
  (Generator.start options).generate unit

end VtableHeader
