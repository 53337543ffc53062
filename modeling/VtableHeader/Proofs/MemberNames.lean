import VtableHeader.Proofs.CheckedMembers
import VtableHeader.Proofs.Dispatch
import VtableHeader.Proofs.TypeNames

/-!
# Names of the members of generated structs

The data struct of a class declares the vtable pointer, a constructor, the fields and methods of
the class, the class object and the vtable.  The vtable struct declares the class object, one
pointer for each slot, and a constructor.  The check of a class keeps its members apart from those
that every class gets, but a constructor bears the name of its struct, which differs from class to
class.  So the constructor can clash: with a member of its own class, with an inherited slot, or,
in a class of an unlucky name, with a member that every class gets.  No other clash is possible.
-/

namespace VtableHeader

/-- A member of a generated struct: its name, and the text of its declaration around it. -/
structure StructMember where
  lead : String
  name : String
  tail : String
  deriving DecidableEq, Repr

/-- The line that declares a member. -/
def StructMember.line (member : StructMember) : Line :=
  ⟨1, member.lead ++ member.name ++ member.tail⟩

namespace Class

/-- The members of the data struct. -/
def dataMembers (decl : Class) : List StructMember :=
  [⟨vtableName decl.name ++ "* ", "__vptr", ";"⟩, ⟨"", dataName decl.name, "();"⟩] ++
    decl.fields.map (fun field => ⟨field.typeName ++ " ", field.name, ";"⟩) ++
    decl.methods.map (fun method => ⟨"static " ++ method.returnType ++ " ", method.name,
      "(" ++ ", ".intercalate (method.paramDeclarations decl.name) ++ ");"⟩) ++
    [⟨"static Class ", "__class", "();"⟩,
      ⟨"static " ++ vtableName decl.name ++ " ", "__vtable", ";"⟩]

/-- The members of the vtable struct that hold data: the class object and the slots. -/
def pointerMembers (decl : Class) (slots : List Slot) : List StructMember :=
  ⟨"Class ", "__is_a", ";"⟩ :: slots.map fun slot => ⟨slot.method.returnType ++ " (*",
    slot.method.name, ")(" ++ slot.pointerParams decl.name ++ ");"⟩

/-- The constructor of the vtable struct. -/
def vtableConstructor (decl : Class) : StructMember :=
  ⟨"", vtableName decl.name, "()"⟩

/-- The names of the members of the data struct. -/
def dataMemberNames (decl : Class) : List String :=
  decl.dataMembers.map (·.name)

/-- The names of the members of the vtable struct. -/
def vtableMemberNames (decl : Class) (slots : List Slot) : List String :=
  (decl.pointerMembers slots ++ [decl.vtableConstructor]).map (·.name)

/-- The body of a class is the declarations of its members inside the struct. -/
theorem bodyBlock_eq (decl : Class) :
    decl.bodyBlock = [{ text := "struct " ++ dataName decl.name ++ " \x7b" }] ++
      decl.dataMembers.map StructMember.line ++ [{ text := "\x7d;" }, .blank] := by
  simp [bodyBlock, bodyMembers, dataMembers, StructMember.line, Method.declaration,
    String.append_assoc, Function.comp_def]

/-- The vtable of a class is the declarations of its members inside the struct, followed by what
the constructor does. -/
theorem vtableBlock_eq (decl : Class) (slots : List Slot) :
    decl.vtableBlock slots = [{ text := "struct " ++ vtableName decl.name ++ " \x7b" }] ++
      (decl.pointerMembers slots).map StructMember.line ++
      [.blank, decl.vtableConstructor.line] ++
      (colonLed (commaSeparated (decl.vtableInitializers slots))).map (Line.mk 1) ++
      [⟨1, "\x7b\x7d"⟩, { text := "\x7d;" }, .blank] := by
  simp [vtableBlock, vtableMembers, pointerMembers, vtableConstructor, StructMember.line,
    Slot.memberDeclaration, String.append_assoc, Function.comp_def]

theorem dataMemberNames_eq (decl : Class) :
    decl.dataMemberNames =
      ["__vptr", dataName decl.name] ++ decl.memberNames ++ ["__class", "__vtable"] := by
  simp [dataMemberNames, dataMembers, memberNames, Function.comp_def]

theorem vtableMemberNames_eq (decl : Class) (slots : List Slot) :
    decl.vtableMemberNames slots = "__is_a" :: (slotNames slots ++ [vtableName decl.name]) := by
  simp [vtableMemberNames, pointerMembers, vtableConstructor, slotNames, Function.comp_def]

/-- The data structs that are named like a member of every data struct. -/
theorem dataName_mem_generated_iff {name : String} :
    dataName name ∈ ["__vptr", "__class", "__vtable"] ↔ name ∈ ["vptr", "class", "vtable"] := by
  have made : ["__vptr", "__class", "__vtable"] = ["vptr", "class", "vtable"].map dataName := by
    decide
  rw [made, List.mem_map_of_injective dataName_injective]

/-- The members of a data struct are distinct unless its constructor is named like another. -/
theorem nodup_dataMemberNames_iff {decl : Class}
    (new : NewNames generatedMembers decl.memberNames) :
    decl.dataMemberNames.Nodup ↔
      decl.name ∉ ["vptr", "class", "vtable"] ∧ dataName decl.name ∉ decl.memberNames := by
  have sorted : decl.dataMemberNames.Perm
      (dataName decl.name :: (["__vptr", "__class", "__vtable"] ++ decl.memberNames)) := by
    rw [dataMemberNames_eq]
    exact (List.Perm.swap _ _ _).trans ((List.perm_append_comm.cons _).cons _)
  have others : (["__vptr", "__class", "__vtable"] ++ decl.memberNames).Nodup := by
    apply List.nodup_append'.mpr
    have fixed : ["__vptr", "__class", "__vtable"] ⊆ generatedMembers := by decide
    exact ⟨by decide, new.1, fun name generated own => new.2 name own (fixed generated)⟩
  rw [sorted.nodup_iff, List.nodup_cons, List.mem_append, not_or, dataName_mem_generated_iff]
  exact and_iff_left others

/-- The members of a vtable struct are distinct unless its constructor is named like a slot. -/
theorem nodup_vtableMemberNames_iff {decl : Class} {slots : List Slot}
    (distinct : (slotNames slots).Nodup) (free : "__is_a" ∉ slotNames slots) :
    (decl.vtableMemberNames slots).Nodup ↔ vtableName decl.name ∉ slotNames slots := by
  have differ : "__is_a" ≠ vtableName decl.name := by
    intro same
    have ends := congrArg (fun text => text.toList.reverse.head?) same
    simp [vtableName] at ends
  rw [vtableMemberNames_eq, List.nodup_cons, ← List.concat_eq_append, List.nodup_concat,
    List.concat_eq_append, List.mem_append, List.mem_singleton]
  simp [free, differ, distinct]

end Class

/-! ## Clashes in a header -/

section Headers

variable {classes : List Class} {known : Class → Option (List Slot)} {decl : Class}
  {slots : List Slot}

/-- A name that every class gets is not the name of a slot. -/
theorem Dispatches.generated_notMem {chain : List Class} {name : String}
    (dispatches : Dispatches chain slots) (checked : ∀ decl ∈ chain, decl.check = .ok ())
    (generated : name ∈ Class.generatedMembers) : name ∉ slotNames slots := by
  intro slotName
  rcases (dispatches.covers name).mp slotName with ⟨owner, ownerMem, declares⟩
  rcases Class.declares_iff.mp declares with ⟨method, methodMem, rfl⟩
  have own : method.name ∈ owner.memberNames :=
    List.mem_append_right _ (List.mem_map_of_mem methodMem)
  exact (Class.newNames_memberNames_of_check (checked owner ownerMem)).2 _ own generated

/-- A slot of a class bears the name of a method of the class or of an ancestor. -/
theorem Dispatches.mem_slotNames_iff_reflTransGen {ancestors : List Class} {name : String}
    (dispatches : Dispatches (decl :: ancestors) slots) (wellDeclared : WellDeclared classes)
    (ancestry : Ancestry classes decl ancestors) :
    name ∈ slotNames slots ↔
      ∃ owner, Relation.ReflTransGen (InheritsFrom classes) decl owner ∧
        owner.declares name = true := by
  rw [dispatches.covers]
  simp only [List.mem_cons, ancestry.mem_iff wellDeclared,
    ← Relation.reflTransGen_iff_eq_or_transGen]

end Headers

/-- In the header of a unit, the members of a data struct are distinct unless its constructor is
named like a member of the class or like one that every class gets, and the members of a vtable
struct are distinct unless its constructor is named like a method of the class or of an ancestor.
The members are those that the lines of the two structs declare. -/
theorem ClassUnit.memberNames_distinct_iff (unit : ClassUnit) (options : Options) {text : String}
    (accepted : unit.header options = .ok text) :
    ∃ pieces slots, unit.Displays options text pieces slots ∧ ∀ decl ∈ unit.classes,
      (decl.dataMemberNames.Nodup ↔
        decl.name ∉ ["vptr", "class", "vtable"] ∧ dataName decl.name ∉ decl.memberNames) ∧
      ((decl.vtableMemberNames (slots decl)).Nodup ↔
        ¬ ∃ owner, Relation.ReflTransGen (InheritsFrom unit.classes) decl owner ∧
          owner.declares (vtableName decl.name) = true) ∧
      decl.bodyBlock = [{ text := "struct " ++ dataName decl.name ++ " \x7b" }] ++
        decl.dataMembers.map StructMember.line ++ [{ text := "\x7d;" }, .blank] ∧
      decl.vtableBlock (slots decl) =
        [{ text := "struct " ++ vtableName decl.name ++ " \x7b" }] ++
          (decl.pointerMembers (slots decl)).map StructMember.line ++
          [.blank, decl.vtableConstructor.line] ++
          (colonLed (commaSeparated (decl.vtableInitializers (slots decl)))).map (Line.mk 1) ++
          [⟨1, "\x7b\x7d"⟩, { text := "\x7d;" }, .blank] := by
  rcases exists_linked_of_header accepted with
    ⟨wellDeclared, uncontested, known, slots, linked, stored, vtables, written⟩
  refine ⟨_, slots, ⟨written, vtables, arranged_unitPieces slots wellDeclared.nodup⟩, ?_⟩
  intro decl member
  rcases linked.exists_dispatches wellDeclared uncontested member (stored decl member) with
    ⟨ancestors, ancestry, dispatches⟩
  have chainChecked : ∀ owner ∈ decl :: ancestors, owner.check = .ok () := by
    intro owner ownerMem
    exact wellDeclared.checked owner
      (List.cons_subset.mpr ⟨member, ancestry.subset⟩ ownerMem)
  have free : "__is_a" ∉ slotNames (slots decl) :=
    dispatches.generated_notMem chainChecked (by decide)
  refine ⟨?_, ?_, decl.bodyBlock_eq, decl.vtableBlock_eq (slots decl)⟩
  · exact Class.nodup_dataMemberNames_iff
      (Class.newNames_memberNames_of_check (wellDeclared.checked decl member))
  · rw [Class.nodup_vtableMemberNames_iff dispatches.distinct free,
      dispatches.mem_slotNames_iff_reflTransGen wellDeclared ancestry]

/-- Members that are named like structs of other classes, but not like those of their own. -/
def borrowingUnit : ClassUnit where
  classes :=
    [{ name := "A", path := ⟨["x"]⟩, fields := [⟨"int", "__B"⟩],
       methods := [{ returnType := "int", name := "__C_VT" }] },
      { name := "B", path := ⟨["y"]⟩, base := some "A", fields := [⟨"int", "__A"⟩] }]

theorem borrowingUnit_members_distinct :
    ∃ text pieces slots, borrowingUnit.header {} = .ok text ∧
      borrowingUnit.Displays {} text pieces slots ∧ ∀ decl ∈ borrowingUnit.classes,
        decl.dataMemberNames.Nodup ∧ (decl.vtableMemberNames (slots decl)).Nodup := by
  rcases exists_eq_ok_of_toBool (borrowingUnit.header {}) (by decide +kernel) with
    ⟨text, accepted⟩
  rcases borrowingUnit.memberNames_distinct_iff {} accepted with
    ⟨pieces, slots, displays, distinct⟩
  have dataFree : ∀ decl ∈ borrowingUnit.classes,
      decl.name ∉ ["vptr", "class", "vtable"] ∧ dataName decl.name ∉ decl.memberNames := by
    decide +kernel
  have vtableFree : ∀ decl ∈ borrowingUnit.classes, ∀ owner ∈ borrowingUnit.classes,
      owner.declares (vtableName decl.name) = false := by
    decide +kernel
  refine ⟨text, pieces, slots, accepted, displays, fun decl member => ?_⟩
  rcases distinct decl member with ⟨dataIff, vtableIff, _⟩
  refine ⟨dataIff.mpr (dataFree decl member), vtableIff.mpr ?_⟩
  rintro ⟨owner, path, declares⟩
  have ownerMem : owner ∈ borrowingUnit.classes := by
    cases path with
    | refl => exact member
    | tail _ inherits => exact inherits.mem
  simp [vtableFree decl member owner ownerMem] at declares

/-- A class with a method named like the vtable struct of its subclass. -/
def clashingBase : Class where
  name := "A"
  methods := [{ returnType := "int", name := "__B_VT" }]

/-- A class with a field named like its own data struct. -/
def clashingClass : Class where
  name := "B"
  base := some "A"
  fields := [⟨"int", "__B"⟩]

/-- Accepted classes can have structs that declare a member twice. -/
theorem clashingClass_repeats_members :
    ∃ text slots, ClassUnit.header ⟨[clashingBase, clashingClass]⟩ {} = .ok text ∧
      ClassUnit.vtables ⟨[clashingBase, clashingClass]⟩ {} =
        .ok [(clashingBase, slots), (clashingClass, slots)] ∧
      ¬ clashingClass.dataMemberNames.Nodup ∧
      ⟨1, "__B();"⟩ ∈ clashingClass.bodyBlock ∧ ⟨1, "int __B;"⟩ ∈ clashingClass.bodyBlock ∧
      ¬ (clashingClass.vtableMemberNames slots).Nodup ∧
      ⟨1, "int (*__B_VT)(B);"⟩ ∈ clashingClass.vtableBlock slots ∧
      ⟨1, "__B_VT()"⟩ ∈ clashingClass.vtableBlock slots := by
  rcases exists_eq_ok_of_toBool (ClassUnit.header ⟨[clashingBase, clashingClass]⟩ {})
    (by decide +kernel) with ⟨text, accepted⟩
  refine ⟨text, [⟨{ returnType := "int", name := "__B_VT" }, clashingBase.ref⟩], accepted, ?_⟩
  decide +kernel

end VtableHeader
