import VtableHeader.Proofs.Placement

/-!
# Names of the generated types

Each class gives its namespace three types: the pointer that bears the name of the class, the
data struct, and the vtable struct.  The names of the structs are made from the name of the
class, and only the names of classes are kept apart.  So a class can be accepted that is named
like a type made for another class of its namespace, and then one name is defined twice.

`definedTypes` reads the definitions off the pieces of a header.  They are distinct exactly
when no class of the namespace mimics another.
-/

namespace VtableHeader

open Generator (byNamespace groupMembers_groups)

/-- The type that a block defines: the pointer, the data struct or the vtable struct. -/
def Block.definedType : Block → String
  | .forward decl => decl.name
  | .body decl => dataName decl.name
  | .vtable decl _ => vtableName decl.name

/-- The line in which a block defines its type. -/
def Block.definition (block : Block) : String :=
  match block with
  | .forward decl => "typedef " ++ dataName decl.name ++ "* " ++ block.definedType ++ ";"
  | .body _ | .vtable _ _ => "struct " ++ block.definedType ++ " \x7b"

theorem Block.definition_mem_lines (block : Block) :
    { text := block.definition } ∈ block.lines := by
  cases block with
  | forward decl => exact .tail _ (.tail _ (.head _))
  | body decl => exact .head _
  | vtable decl slots => exact .head _

/-- The types that pieces define in a namespace, in the order of their definitions. -/
def definedTypes (path : NamespacePath) (pieces : List Piece) : List String :=
  ((blocksOf pieces).filter (·.decl.path = path)).map Block.definedType

/-- The names of the classes in a namespace. -/
def namesIn (path : NamespacePath) (classes : List Class) : List String :=
  (classes.filter (·.path = path)).map (·.name)

/-- A class named `name` bears the name of a type made for a class named `other`, or its own
data struct does. -/
def Mimics (name other : String) : Prop :=
  name = dataName other ∨ name = vtableName other ∨ name = other ++ "_VT"

instance (name other : String) : Decidable (Mimics name other) :=
  inferInstanceAs (Decidable (_ ∨ _ ∨ _))

theorem dataName_injective : Function.Injective dataName :=
  fun _ _ same => (String.append_right_inj "__").mp same

theorem vtableName_injective : Function.Injective vtableName := by
  intro first second same
  exact dataName_injective ((String.append_left_inj "_VT").mp same)

theorem dataName_eq_vtableName_iff {name other : String} :
    dataName name = vtableName other ↔ name = other ++ "_VT" := by
  rw [dataName, vtableName, String.append_assoc, String.append_right_inj]

/-- Types made from distinct names are distinct unless a name mimics another. -/
theorem nodup_typeNames_iff {names : List String} (distinct : names.Nodup) :
    (names ++ names.map dataName ++ names.map vtableName).Nodup ↔
      ∀ name ∈ names, ∀ other ∈ names, ¬ Mimics name other := by
  have structs : (names.map dataName).Nodup := distinct.map dataName_injective
  have vtables : (names.map vtableName).Nodup := distinct.map vtableName_injective
  rw [List.nodup_append, List.nodup_append]
  simp only [distinct, structs, vtables, true_and, List.mem_append, List.forall_mem_map]
  constructor
  · rintro ⟨pointers, rest⟩ name nameMem other otherMem (asStruct | asVtable | structAsVtable)
    · exact pointers name nameMem other otherMem asStruct
    · exact rest name (.inl nameMem) other otherMem asVtable
    · exact rest _ (.inr (List.mem_map_of_mem nameMem)) other otherMem
        (dataName_eq_vtableName_iff.mpr structAsVtable)
  · intro apart
    constructor
    · intro name nameMem other otherMem asStruct
      exact apart name nameMem other otherMem (.inl asStruct)
    · rintro type (nameMem | structMem) other otherMem same
      · exact apart type nameMem other otherMem (.inr (.inl same))
      · rcases List.mem_map.mp structMem with ⟨name, nameMem, rfl⟩
        exact apart name nameMem other otherMem
          (.inr (.inr (dataName_eq_vtableName_iff.mp same)))

variable {classes : List Class} {slots : Class → List Slot} {pieces : List Piece}

theorem mem_namesIn_iff {path : NamespacePath} {name : String} :
    name ∈ namesIn path classes ↔ ∃ decl ∈ classes, decl.path = path ∧ decl.name = name := by
  simp [namesIn, and_assoc]

/-- Classes of one namespace have distinct names. -/
theorem WellDeclared.nodup_namesIn (declared : WellDeclared classes) (path : NamespacePath) :
    (namesIn path classes).Nodup := by
  apply List.Nodup.map_on _ (declared.nodup.filter _)
  intro first firstMem second secondMem sameName
  rcases List.mem_filter.mp firstMem with ⟨firstMem, firstPath⟩
  rcases List.mem_filter.mp secondMem with ⟨secondMem, secondPath⟩
  have samePath : first.path = second.path :=
    (of_decide_eq_true firstPath).trans (of_decide_eq_true secondPath).symm
  apply declared.eq_of_ref_eq firstMem secondMem
  simp [Class.ref, sameName, samePath]

/-- A namespace of a header has first the pointers of its classes, then their data structs,
then their vtable structs. -/
theorem Arranged.definedTypes_eq (arranged : Arranged classes slots pieces)
    (path : NamespacePath) :
    definedTypes path pieces = namesIn path (byNamespace classes) ++
      (namesIn path (byNamespace classes)).map dataName ++
      (namesIn path (byNamespace classes)).map vtableName := by
  have part : ∀ block : Class → Block, (∀ decl, (block decl).decl = decl) →
      (((byNamespace classes).map block).filter (·.decl.path = path)).map Block.definedType =
        ((byNamespace classes).filter (·.path = path)).map fun decl =>
          (block decl).definedType := by
    intro block owns
    rw [List.filter_map, Function.comp_def, List.map_map]
    simp only [owns]
    rfl
  rw [definedTypes, arranged.passes, List.filter_append, List.filter_append, List.map_append,
    List.map_append, part _ fun _ => rfl, part _ fun _ => rfl, part _ fun _ => rfl]
  simp only [namesIn, List.map_map]
  rfl

/-- The types that a header defines in a namespace are distinct exactly when no class of the
namespace mimics another. -/
theorem Arranged.nodup_definedTypes_iff (arranged : Arranged classes slots pieces)
    (declared : WellDeclared classes) (path : NamespacePath) :
    (definedTypes path pieces).Nodup ↔
      ∀ decl ∈ classes, ∀ other ∈ classes, decl.path = path → other.path = path →
        ¬ Mimics decl.name other.name := by
  have same : (byNamespace classes).Perm classes := by
    rw [← groupMembers_groups]
    exact Generator.groupMembers_groups_perm classes
  rw [arranged.definedTypes_eq, nodup_typeNames_iff ((declared.perm same).nodup_namesIn path)]
  simp only [mem_namesIn_iff, same.mem_iff]
  constructor
  · intro apart decl declMem other otherMem declPath otherPath
    exact apart _ ⟨decl, declMem, declPath, rfl⟩ _ ⟨other, otherMem, otherPath, rfl⟩
  · rintro apart _ ⟨decl, declMem, declPath, rfl⟩ _ ⟨other, otherMem, otherPath, rfl⟩
    exact apart decl declMem other otherMem declPath otherPath

/-- In the header of a unit, the pointers, data structs and vtable structs that a namespace
gets are distinct exactly when no class of the namespace mimics another.  Each of them is
defined by a line of the block that it belongs to. -/
theorem ClassUnit.definedTypes_distinct_iff (unit : ClassUnit) (options : Options) {text : String}
    (accepted : unit.header options = .ok text) :
    ∃ pieces slots, unit.Displays options text pieces slots ∧
      (∀ path, (definedTypes path pieces).Nodup ↔
        ∀ decl ∈ unit.classes, ∀ other ∈ unit.classes, decl.path = path → other.path = path →
          ¬ Mimics decl.name other.name) ∧
      ∀ block ∈ blocksOf pieces, { text := block.definition } ∈ block.lines := by
  rcases exists_linked_of_header accepted with
    ⟨wellDeclared, _, _, slots, _, _, vtables, written⟩
  have arranged := arranged_unitPieces slots wellDeclared.nodup
  exact ⟨_, slots, ⟨written, vtables, arranged⟩, arranged.nodup_definedTypes_iff wellDeclared,
    fun block _ => block.definition_mem_lines⟩

/-- A class that would mimic another if it were not in a namespace of its own. -/
def separatedUnit : ClassUnit where
  classes := [{ name := "A", path := ⟨["x"]⟩ }, { name := "A_VT", path := ⟨["y"]⟩ }]

theorem separatedUnit_defines_once :
    ∃ text pieces slots, separatedUnit.header {} = .ok text ∧
      separatedUnit.Displays {} text pieces slots ∧ ∀ path, (definedTypes path pieces).Nodup := by
  rcases exists_eq_ok_of_toBool (separatedUnit.header {}) (by decide +kernel) with
    ⟨text, accepted⟩
  rcases separatedUnit.definedTypes_distinct_iff {} accepted with
    ⟨pieces, slots, displays, distinct, _⟩
  have apart : ∀ decl ∈ separatedUnit.classes, ∀ other ∈ separatedUnit.classes,
      decl.path = other.path → ¬ Mimics decl.name other.name := by decide +kernel
  refine ⟨text, pieces, slots, accepted, displays, fun path => (distinct path).mpr ?_⟩
  intro decl declMem other otherMem declPath otherPath
  exact apart decl declMem other otherMem (declPath.trans otherPath.symm)

/-- The data struct of the second class is the vtable struct of the first. -/
def mimickingUnit : ClassUnit where
  classes := [{ name := "A" }, { name := "A_VT" }]

/-- Accepted classes can define a type twice: here two blocks define `__A_VT`. -/
theorem mimickingUnit_defines_twice :
    ∃ text, mimickingUnit.header {} = .ok text ∧
      ∀ pieces slots, mimickingUnit.Displays {} text pieces slots →
        ¬ (definedTypes .root pieces).Nodup ∧
        ∃ first ∈ blocksOf pieces, ∃ second ∈ blocksOf pieces, first ≠ second ∧
          first.definition = "struct __A_VT \x7b" ∧ second.definition = "struct __A_VT \x7b" := by
  rcases exists_eq_ok_of_toBool (mimickingUnit.header {}) (by decide +kernel) with
    ⟨text, accepted⟩
  rcases ClassUnit.header_eq_ok_iff.mp accepted with ⟨wellDeclared, _⟩
  refine ⟨text, accepted, fun pieces slots displays => ⟨?_, ?_⟩⟩
  · rw [displays.arranged.nodup_definedTypes_iff wellDeclared]
    intro apart
    exact apart { name := "A_VT" } (by decide) { name := "A" } (by decide) rfl rfl
      (by decide +kernel)
  · refine ⟨.vtable { name := "A" } (slots { name := "A" }), ?_, .body { name := "A_VT" }, ?_,
      by simp, rfl, rfl⟩
    all_goals
      rw [displays.arranged.passes]
      simp [byNamespace, mimickingUnit]

end VtableHeader
