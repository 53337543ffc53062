import VtableHeader.Draft.Class
import VtableHeader.Proofs.Stretches
import VtableHeader.Proofs.Success

/-!
# The text of a vtable

A vtable struct first declares its members and then has a constructor that initializes them.  Both
lists begin with the class object and go on with the slots, so a member and its initializer stand at
the same place.  The type of a slot is spelled twice: in the declaration of its member, and again in
the cast of an implementation that the class does not declare itself.

The lines of a vtable are written at once, each at its level.  The same text comes from writing them
one by one, a level deeper behind the line that opens the struct and back again before the one that
closes it.  So the section is left at the depth that it was found at.
-/

namespace VtableHeader

namespace Sections

variable {place : Section}

theorem update_update (sections : Sections) (first second : Pending → Pending) :
    (sections.update place first).update place second =
      sections.update place (second ∘ first) := by
  cases place <;> rfl

/-- Edits of one section change nothing else; they leave their text there, and the depth that they
come to one after another. -/
theorem edited_eq_update (sections : Sections) {edits : List Edit}
    (addressed : ∀ edit ∈ edits, edit.place? = some place) :
    sections.edited edits = sections.update place fun pending =>
      ⟨pending.text ++ stretchText sections.indentUnit pending.depth edits,
        edits.foldl Edit.shift pending.depth⟩ := by
  induction edits generalizing sections with
  | nil => cases place <;> simp [edited, stretchText, update]
  | cons edit rest ih =>
      obtain ⟨here, others⟩ := List.forall_mem_cons.mp addressed
      rw [edited_cons, ih _ others, indentUnit_apply, apply_eq_update sections here, update_update]
      simp only [Function.comp_def, stretchText, List.foldl_cons, String.append_assoc]

theorem stretchText_append (indentUnit : String) (depth : Nat) (first second : List Edit) :
    stretchText indentUnit depth (first ++ second) =
      stretchText indentUnit depth first ++
        stretchText indentUnit (first.foldl Edit.shift depth) second := by
  induction first generalizing depth with
  | nil => simp [stretchText]
  | cons edit rest ih => simp [stretchText, ih, String.append_assoc]

theorem foldl_shift_lines (place : Section) (depth : Nat) (texts : List String) :
    (texts.map (Edit.line place)).foldl Edit.shift depth = depth := by
  induction texts with
  | nil => rfl
  | cons text rest ih => exact ih

/-- Lines that are written one by one at some level of a block. -/
theorem stretchText_lines (indentUnit : String) (place : Section) (depth level : Nat)
    (texts : List String) :
    stretchText indentUnit (depth + level) (texts.map (Edit.line place)) =
      blockText indentUnit depth (texts.map (Line.mk level)) := by
  induction texts with
  | nil => rfl
  | cons text rest ih =>
      rw [List.map_cons, stretchText, Edit.shift, ih]
      simp [blockText, lineText, Edit.text]

end Sections

/-! ## A vtable line by line -/

namespace Class

/-- The edits that write a vtable struct with the given lines for its members and its
initializers. -/
def vtableEdits (decl : Class) (members initializers : List String) : List Edit :=
  [.line .vtables ("struct " ++ vtableName decl.name ++ " \x7b"), .indent .vtables] ++
    members.map (.line .vtables) ++
    [.blank .vtables, .line .vtables (vtableName decl.name ++ "()")] ++
    initializers.map (.line .vtables) ++
    [.line .vtables "\x7b\x7d", .dedent .vtables, .line .vtables "\x7d;", .blank .vtables]

section Edits

variable (decl : Class) (members initializers : List String)

theorem place?_of_mem_vtableEdits :
    ∀ edit ∈ decl.vtableEdits members initializers, edit.place? = some .vtables := by
  simp only [vtableEdits, List.forall_mem_append, List.forall_mem_map]
  simp [Edit.place?]

/-- A vtable leaves the depth of its section as it was. -/
theorem foldl_shift_vtableEdits (depth : Nat) :
    (decl.vtableEdits members initializers).foldl Edit.shift depth = depth := by
  simp only [vtableEdits, List.foldl_append, List.foldl_cons, List.foldl_nil,
    Sections.foldl_shift_lines, Edit.shift, Nat.add_sub_cancel]

/-- Written line by line, a vtable is its block. -/
theorem stretchText_vtableEdits (slots : List Slot) (indentUnit : String) (depth : Nat) :
    Sections.stretchText indentUnit depth (decl.vtableEdits (decl.vtableMembers slots)
      (colonLed (commaSeparated (decl.vtableInitializers slots)))) =
      Sections.blockText indentUnit depth (decl.vtableBlock slots) := by
  -- Each part finds the depth that the parts before it leave: one level deeper for the lines
  -- between the indentation and its end.
  simp only [vtableEdits, Sections.stretchText_append, List.foldl_append, List.foldl_cons,
    List.foldl_nil, Sections.foldl_shift_lines, Edit.shift, Sections.stretchText_lines]
  simp [vtableBlock, Sections.blockText, Sections.stretchText, Edit.text, Edit.shift,
    Sections.lineText, Sections.indentation, Line.blank, String.append_assoc]

end Edits

end Class

/-- The line of the initializer at `index` of `count`: a colon leads to the first, and a comma
follows every one but the last. -/
def initializerLine (count index : Nat) (initializer : String) : String :=
  (if index = 0 then ": " else "  ") ++ initializer ++ if index + 1 = count then "" else ","

theorem getElem?_commaSeparated (items : List String) (index : Nat) :
    (commaSeparated items)[index]? =
      items[index]?.map (· ++ if index + 1 = items.length then "" else ",") := by
  induction items generalizing index with
  | nil => rfl
  | cons item rest ih =>
      cases rest with
      | nil => cases index <;> simp [commaSeparated]
      | cons next rest => cases index <;> simp [commaSeparated, ih]

theorem getElem?_colonLed (items : List String) (index : Nat) :
    (colonLed items)[index]? = items[index]?.map ((if index = 0 then ": " else "  ") ++ ·) := by
  cases items with
  | nil => rfl
  | cons first rest => cases index <;> simp [colonLed]

/-- The initializers of a constructor, each on the line for its place. -/
theorem colonLed_commaSeparated (items : List String) :
    colonLed (commaSeparated items) = items.mapIdx (initializerLine items.length) := by
  apply List.ext_getElem?
  intro index
  rw [getElem?_colonLed, getElem?_commaSeparated, List.getElem?_mapIdx]
  cases items[index]? <;> simp [initializerLine, String.append_assoc]

/-- A comma ends the line of every initializer but the last. -/
theorem getLast?_initializerLine_iff {count index : Nat} {initializer : String}
    (closed : initializer.toList.getLast? = some ')') :
    (initializerLine count index initializer).toList.getLast? = some ',' ↔ index + 1 ≠ count := by
  rw [initializerLine, String.toList_append, List.getLast?_append]
  by_cases last : index + 1 = count
  · rw [if_pos last, String.toList_append, List.getLast?_append, closed]
    simp [last]
  · rw [if_neg last]
    simp [last]

/-- The type of a function pointer. -/
structure PointerType where
  result : String
  params : List String
  deriving DecidableEq, Repr

namespace PointerType

/-- The declaration of a member of this type. -/
def declaration (type : PointerType) (name : String) : String :=
  type.result ++ " (*" ++ name ++ ")(" ++ ", ".intercalate type.params ++ ");"

/-- The cast of an address to this type. -/
def cast (type : PointerType) : String :=
  "(" ++ type.result ++ "(*)(" ++ ", ".intercalate type.params ++ "))"

end PointerType

namespace Slot

variable (slot : Slot)

/-- The type of a slot in the vtable of `receiver`, which it takes first. -/
def pointerType (receiver : String) : PointerType :=
  ⟨slot.method.returnType, receiver :: slot.method.params.map (·.typeName)⟩

theorem memberDeclaration_eq (receiver : String) :
    slot.memberDeclaration receiver = (slot.pointerType receiver).declaration slot.method.name :=
  rfl

/-- An initializer casts to the type that the member is declared with, or not at all. -/
theorem initializer_eq (owner : ClassRef) :
    slot.initializer owner = slot.method.name ++ "(" ++
      (if slot.declaredBy = owner then "" else (slot.pointerType owner.name).cast) ++
      slot.target owner.path ++ ")" := by
  unfold initializer binding
  split <;> simp [PointerType.cast, pointerType, pointerParams, String.append_assoc]

theorem getLast?_initializer (owner : ClassRef) :
    (slot.initializer owner).toList.getLast? = some ')' := by
  rw [initializer, String.toList_append, List.getLast?_append]
  simp

/-- A cast shows behind the name of the member, where an address without one begins at once. -/
theorem cast_prefix_iff (owner : ClassRef) (count index : Nat) :
    ("  " ++ slot.method.name ++ "((").toList <+:
        (initializerLine count (index + 1) (slot.initializer owner)).toList ↔
      slot.declaredBy ≠ owner := by
  rw [initializer_eq]
  by_cases own : slot.declaredBy = owner
  · simp [initializerLine, own, target]
  · simp [initializerLine, own, PointerType.cast]

end Slot

namespace Class

/-- The lines for the members of a vtable and those for its initializers line up. -/
structure LinesUp (decl : Class) (slots : List Slot) (members initializers : List String) :
    Prop where
  members_length : members.length = slots.length + 1
  initializers_length : initializers.length = slots.length + 1
  /-- The class object is first on both sides. -/
  classObject : members[0]? = some "Class __is_a;" ∧
    initializers[0]? = some (initializerLine (slots.length + 1) 0
      ("__is_a(" ++ dataName decl.name ++ "::__class())"))
  /-- A slot has the same place behind it on both sides.  Its pointer takes the class first and then
  the parameters of the method, and an implementation of another class is cast to this type. -/
  slot : ∀ index slot, slots[index]? = some slot →
    let type : PointerType :=
      ⟨slot.method.returnType, decl.name :: slot.method.params.map (·.typeName)⟩
    members[index + 1]? = some (type.declaration slot.method.name) ∧
    initializers[index + 1]? = some (initializerLine (slots.length + 1) (index + 1)
      (slot.method.name ++ "(" ++ (if slot.declaredBy = decl.ref then "" else type.cast) ++
        slot.target decl.path ++ ")"))
  /-- The lines show which implementations are cast. -/
  cast_iff : ∀ index slot line, slots[index]? = some slot → initializers[index + 1]? = some line →
    (("  " ++ slot.method.name ++ "((").toList <+: line.toList ↔ slot.declaredBy ≠ decl.ref)
  /-- All lines but the last one end with a comma. -/
  comma_iff : ∀ index line, initializers[index]? = some line →
    (line.toList.getLast? = some ',' ↔ index < slots.length)

section Lines

variable (decl : Class) (slots : List Slot)

/-- The lines for the initializers of a vtable. -/
def initializerLines : List String :=
  colonLed (commaSeparated (decl.vtableInitializers slots))

theorem initializerLines_eq :
    decl.initializerLines slots =
      (decl.vtableInitializers slots).mapIdx (initializerLine (slots.length + 1)) := by
  rw [initializerLines, colonLed_commaSeparated]
  simp [vtableInitializers]

theorem getLast?_of_mem_vtableInitializers {initializer : String}
    (member : initializer ∈ decl.vtableInitializers slots) :
    initializer.toList.getLast? = some ')' := by
  rcases List.mem_cons.mp member with rfl | ofSlot
  · rw [String.toList_append, List.getLast?_append]
    simp
  · obtain ⟨slot, _, rfl⟩ := List.mem_map.mp ofSlot
    exact slot.getLast?_initializer decl.ref

/-- The line of a slot's initializer. -/
theorem getElem?_initializerLines {index : Nat} {slot : Slot} (found : slots[index]? = some slot) :
    (decl.initializerLines slots)[index + 1]? =
      some (initializerLine (slots.length + 1) (index + 1) (slot.initializer decl.ref)) := by
  rw [initializerLines_eq, List.getElem?_mapIdx]
  simp [vtableInitializers, found]

theorem linesUp_vtable :
    decl.LinesUp slots (decl.vtableMembers slots) (decl.initializerLines slots) where
  members_length := by simp [vtableMembers]
  initializers_length := by simp [initializerLines_eq, vtableInitializers]
  classObject := by
    rw [initializerLines_eq, List.getElem?_mapIdx]
    exact ⟨rfl, rfl⟩
  slot := by
    intro index slot found
    rw [decl.getElem?_initializerLines slots found, slot.initializer_eq]
    simp [vtableMembers, found, Slot.memberDeclaration_eq, Slot.pointerType, ref]
  cast_iff := by
    intro index slot line found lined
    rw [decl.getElem?_initializerLines slots found] at lined
    rw [← Option.some.inj lined, slot.cast_prefix_iff]
  comma_iff := by
    intro index line lined
    rw [initializerLines_eq, List.getElem?_mapIdx] at lined
    obtain ⟨initializer, found, rfl⟩ := Option.map_eq_some_iff.mp lined
    have inside : index < slots.length + 1 := by
      simpa [vtableInitializers] using (List.getElem?_eq_some_iff.mp found).1
    rw [getLast?_initializerLine_iff
      (decl.getLast?_of_mem_vtableInitializers slots (List.mem_of_getElem? found))]
    omega

end Lines

end Class

/-- The members and the initializers of a vtable line up.  Where the slots of a class can be
computed, its vtable is written with them line by line.  Only the section for vtables changes, to
which the lines are added, and its depth is what it was. -/
theorem Draft.writeVtable_lines_up (draft : Draft) (decl : Class) (inherited slots : List Slot)
    (effective : decl.effectiveSlots inherited = .ok slots) :
    ∃ members initializers, decl.LinesUp slots members initializers ∧
      let edits := decl.vtableEdits members initializers
      let written := draft.sections.edited edits
      draft.writeVtable decl inherited = .ok ({ draft with sections := written }, slots) ∧
      written = { draft.sections with
        vtables :=
          ⟨draft.sections.vtables.text ++ Sections.stretchText draft.sections.indentUnit
              draft.sections.vtables.depth edits,
            draft.sections.vtables.depth⟩ } := by
  have edited := draft.sections.edited_eq_update
    (decl.place?_of_mem_vtableEdits (decl.vtableMembers slots) (decl.initializerLines slots))
  simp only [Class.foldl_shift_vtableEdits] at edited
  refine ⟨_, _, decl.linesUp_vtable slots, ?_, edited⟩
  rw [edited, Class.initializerLines, writeVtable, effective]
  simp only [Class.stretchText_vtableEdits]
  rfl

/-- The slots of a class in another namespace. -/
def foreignSlots : List Slot :=
  [{ method := { returnType := "int", name := "hash", params := [⟨"int", ""⟩, ⟨"bool", "b"⟩] },
     declaredBy := ⟨"A", ⟨["x"]⟩⟩ },
    { method := { returnType := "String", name := "toString" }, declaredBy := ⟨"A", ⟨["x"]⟩⟩ }]

/-- A class that inherits one of them, overrides the other and adds one. -/
def mixingClass : Class where
  name := "B"
  path := ⟨["y"]⟩
  methods :=
    [{ returnType := "void", name := "reset" },
      { returnType := "String", name := "toString", isOverride := true }]

/-- A draft with an indented section for vtables. -/
def indentedVtables : Draft where
  sections := { indentUnit := "  ", vtables := ⟨"", 1⟩ }

/-- The implementation of the other class is cast, and the last initializer has no comma. -/
theorem mixingClass_lines_up :
    ∃ slots members initializers,
      mixingClass.effectiveSlots foreignSlots = .ok slots ∧
      mixingClass.LinesUp slots members initializers ∧
      (indentedVtables.sections.edited (mixingClass.vtableEdits members initializers)).vtables =
        ⟨"  struct __B_VT \x7b\n" ++
          "    Class __is_a;\n" ++
          "    int (*hash)(B, int, bool);\n" ++
          "    String (*toString)(B);\n" ++
          "    void (*reset)(B);\n" ++
          "\n" ++
          "    __B_VT()\n" ++
          "    : __is_a(__B::__class()),\n" ++
          "      hash((int(*)(B, int, bool))&::x::__A::hash),\n" ++
          "      toString(&__B::toString),\n" ++
          "      reset(&__B::reset)\n" ++
          "    \x7b\x7d\n" ++
          "  \x7d;\n\n", 1⟩ := by
  obtain ⟨slots, effective⟩ :=
    exists_eq_ok_of_toBool (mixingClass.effectiveSlots foreignSlots) (by decide +kernel)
  obtain ⟨members, initializers, linesUp, written, -⟩ :=
    indentedVtables.writeVtable_lines_up mixingClass foreignSlots slots effective
  have shown := congrArg (fun result => result.toOption.map (·.1.sections.vtables)) written
  refine ⟨slots, members, initializers, effective, linesUp, Option.some.inj (shown.symm.trans ?_)⟩
  decide +kernel

end VtableHeader
