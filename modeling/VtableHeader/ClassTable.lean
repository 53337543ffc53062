import VtableHeader.Slot

/-!
# The class table

The generator remembers every class it has declared, in the order of the
declarations, under its dotted name.  The slots of a class become known later.
Bases are looked up here: a dotted name as it is written, a simple name first in
the namespace of the class that uses it and then among all classes with slots,
where it must be unique.
-/

namespace VtableHeader

/-- What is known of a declared class. -/
structure ClassEntry where
  key : String
  ref : ClassRef
  slots : Option (List Slot) := none
  deriving DecidableEq, Repr

/-- The declared classes in the order of their declarations. -/
structure ClassTable where
  entries : List ClassEntry := []
  deriving DecidableEq, Repr

namespace ClassTable

/-- The entry with the given dotted name. -/
def find? (table : ClassTable) (key : String) : Option ClassEntry :=
  table.entries.find? (·.key == key)

/-- Whether a class of this dotted name has been declared. -/
def contains (table : ClassTable) (key : String) : Bool :=
  (table.find? key).isSome

/-- Enter a class whose slots are not known yet. -/
def insert (table : ClassTable) (decl : Class) : ClassTable :=
  ⟨table.entries ++ [{ key := decl.qualifiedName, ref := decl.ref }]⟩

/-- Remember the slots of a declared class. -/
def setSlots (table : ClassTable) (key : String) (slots : List Slot) : ClassTable :=
  ⟨table.entries.map fun entry =>
    if entry.key = key then { entry with slots := some slots } else entry⟩

/-- Whether the name of a base is dotted. -/
def isDotted (base : String) : Bool :=
  base.toList.contains '.'

/-- Where a base is looked up first. -/
def localKey (decl : Class) (base : String) : String :=
  if isDotted base || decl.path.isRoot then base else decl.path.dotted ++ "." ++ base

/-- The classes with a given simple name whose slots are known, and their slots. -/
def candidates (table : ClassTable) (name : String) : List (String × List Slot) :=
  (table.entries.filter (·.ref.name == name)).filterMap fun entry =>
    entry.slots.map fun slots => (entry.key, slots)

/-- The slots of the class that `decl` calls `base`. -/
def resolveBase (table : ClassTable) (decl : Class) (base : String) :
    Except GenError (List Slot) :=
  let notEmitted := GenError.baseNotEmitted decl.qualifiedName base
  match table.find? (localKey decl base) with
  | some entry =>
      match entry.slots with
      | some slots => .ok slots
      | none => .error notEmitted
  | none =>
      if isDotted base then .error notEmitted
      else
        match table.candidates base with
        | [] => .error notEmitted
        | [candidate] => .ok candidate.2
        | several => .error (.ambiguousBase decl.qualifiedName base (several.map Prod.fst))

/-- The slots that a class inherits. -/
def inheritedSlots (table : ClassTable) (decl : Class) : Except GenError (List Slot) :=
  match decl.base with
  | none => .ok []
  | some base => table.resolveBase decl base

end ClassTable

end VtableHeader
