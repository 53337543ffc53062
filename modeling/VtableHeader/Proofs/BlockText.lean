import VtableHeader.Proofs.Pieces

/-!
# The text of blocks

What the blocks of a class say, spelled out.  Forward declarations name both structs and the
pointer.  The body declares the members of the data struct, among them a static function for each
method: it takes the class first and then the parameters of the method, each under its name.  The
vtable declares a pointer for each slot, with the types of the same parameters, and has a
constructor that binds the pointers.
-/

namespace VtableHeader

/-- The names of all parameters of the static function of a method, the receiver first. -/
def Method.paramNames (method : Method) : List String :=
  Class.receiverName :: method.params.mapIdx fun index param => param.nameAt index

/-- The declarations of the parameters are their types and names side by side. -/
theorem Method.paramDeclarations_eq (method : Method) (owner : String) :
    method.paramDeclarations owner =
      List.zipWith (fun typeName name => typeName ++ " " ++ name)
        (owner :: method.params.map (·.typeName)) method.paramNames := by
  rw [paramDeclarations, paramNames, List.zipWith_cons_cons]
  congr 1
  apply List.ext_getElem
  · simp
  · intro index _ _
    simp

theorem Method.declaration_eq (method : Method) (owner : String) :
    method.declaration owner = "static " ++ method.returnType ++ " " ++ method.name ++ "(" ++
      ", ".intercalate (List.zipWith (fun typeName name => typeName ++ " " ++ name)
        (owner :: method.params.map (·.typeName)) method.paramNames) ++ ");" := by
  rw [declaration, paramDeclarations_eq]

namespace Class

variable {decl : Class}

/-- The members of a data struct: the pointer to its vtable, the constructor, the fields, a static
function for each method, the class object and the vtable. -/
theorem bodyMembers_eq (decl : Class) :
    decl.bodyMembers =
      ["__" ++ decl.name ++ "_VT* __vptr;", "__" ++ decl.name ++ "();"] ++
        decl.fields.map (fun field => field.typeName ++ " " ++ field.name ++ ";") ++
        decl.methods.map (fun method =>
          "static " ++ method.returnType ++ " " ++ method.name ++ "(" ++
            ", ".intercalate (List.zipWith (fun typeName name => typeName ++ " " ++ name)
              (decl.name :: method.params.map (·.typeName)) method.paramNames) ++ ");") ++
        ["static Class __class();", "static __" ++ decl.name ++ "_VT __vtable;"] := by
  simp only [bodyMembers, Method.declaration_eq]
  simp [vtableName, dataName, ← String.toList_inj]

/-- The members of a vtable struct: the class object, and a pointer for each slot. -/
theorem vtableMembers_eq (decl : Class) (slots : List Slot) :
    decl.vtableMembers slots = "Class __is_a;" :: slots.map fun slot =>
      slot.method.returnType ++ " (*" ++ slot.method.name ++ ")(" ++
        ", ".intercalate (decl.name :: slot.method.params.map (·.typeName)) ++ ");" :=
  rfl

/-- The body of a class declares a static function for each of its methods. -/
theorem declaration_mem_bodyBlock {method : Method} (member : method ∈ decl.methods) :
    ⟨1, "static " ++ method.returnType ++ " " ++ method.name ++ "(" ++
      ", ".intercalate (List.zipWith (fun typeName name => typeName ++ " " ++ name)
        (decl.name :: method.params.map (·.typeName)) method.paramNames) ++ ");"⟩ ∈
      decl.bodyBlock := by
  rw [← Method.declaration_eq]
  have inside : method.declaration decl.name ∈ decl.bodyMembers := by
    simp only [bodyMembers, List.mem_append, List.mem_map]
    exact .inl (.inr ⟨method, member, rfl⟩)
  simp only [bodyBlock, List.mem_append, List.mem_map]
  exact .inl (.inr ⟨_, inside, rfl⟩)

/-- The vtable of a class declares a pointer for each of its slots. -/
theorem pointer_mem_vtableBlock {slots : List Slot} {slot : Slot} (member : slot ∈ slots) :
    ⟨1, slot.method.returnType ++ " (*" ++ slot.method.name ++ ")(" ++
      ", ".intercalate (decl.name :: slot.method.params.map (·.typeName)) ++ ");"⟩ ∈
      decl.vtableBlock slots := by
  simp only [vtableBlock, vtableMembers_eq, List.mem_append, List.mem_map, List.mem_cons]
  exact .inl (.inl (.inl (.inr ⟨_, .inr ⟨slot, member, rfl⟩, rfl⟩)))

theorem ne_empty_of_mem_bodyMembers (decl : Class) : ∀ member ∈ decl.bodyMembers, member ≠ "" := by
  simp only [bodyMembers_eq, List.forall_mem_append, List.forall_mem_map]
  simp

theorem ne_empty_of_mem_vtableMembers (decl : Class) (slots : List Slot) :
    ∀ member ∈ decl.vtableMembers slots, member ≠ "" := by
  simp [vtableMembers_eq]

end Class

theorem ne_empty_of_mem_colonLed (items : List String) : ∀ item ∈ colonLed items, item ≠ "" := by
  cases items <;> simp [colonLed]

section Blocks

variable (indentUnit : String)

theorem Sections.blockText_cons (line : Line) (rest : List Line) :
    blockText indentUnit 0 (line :: rest) =
      lineText indentUnit 0 line ++ blockText indentUnit 0 rest := by
  simp [blockText]

theorem Sections.blockText_append (first second : List Line) :
    blockText indentUnit 0 (first ++ second) =
      blockText indentUnit 0 first ++ blockText indentUnit 0 second := by
  simp [blockText]

/-- Lines that stand one level inside a block. -/
theorem Sections.blockText_inner {texts : List String} (nonempty : ∀ text ∈ texts, text ≠ "") :
    blockText indentUnit 0 (texts.map (Line.mk 1)) =
      String.join (texts.map fun text => indentUnit ++ text ++ "\n") := by
  induction texts with
  | nil => rfl
  | cons text rest ih =>
      obtain ⟨here, others⟩ := List.forall_mem_cons.mp nonempty
      rw [List.map_cons, blockText_cons, ih others]
      simp [lineText, indentation, here]

namespace Block

variable (decl : Class) (slots : List Slot)

theorem text_forward :
    (Piece.block (.forward decl)).text indentUnit =
      "struct __" ++ decl.name ++ ";\n" ++ "struct __" ++ decl.name ++ "_VT;\n" ++
        "typedef __" ++ decl.name ++ "* " ++ decl.name ++ ";\n\n" := by
  simp [Piece.text, lines, Class.forwardBlock, Sections.blockText, Sections.lineText,
    Sections.indentation, Line.blank, dataName, vtableName, ← String.toList_inj]

theorem text_body :
    (Piece.block (.body decl)).text indentUnit =
      "struct __" ++ decl.name ++ " \x7b\n" ++
        String.join (decl.bodyMembers.map fun member => indentUnit ++ member ++ "\n") ++
        "\x7d;\n\n" := by
  rw [Piece.text, lines, Class.bodyBlock, Sections.blockText_append, Sections.blockText_append,
    Sections.blockText_inner _ decl.ne_empty_of_mem_bodyMembers]
  simp [Sections.blockText, Sections.lineText, Sections.indentation, Line.blank, dataName,
    ← String.toList_inj]

theorem text_vtable :
    (Piece.block (.vtable decl slots)).text indentUnit =
      "struct __" ++ decl.name ++ "_VT \x7b\n" ++
        String.join ((decl.vtableMembers slots).map fun member => indentUnit ++ member ++ "\n") ++
        "\n" ++ indentUnit ++ "__" ++ decl.name ++ "_VT()\n" ++
        String.join ((colonLed (commaSeparated (decl.vtableInitializers slots))).map
          fun initializer => indentUnit ++ initializer ++ "\n") ++
        indentUnit ++ "\x7b\x7d\n" ++ "\x7d;\n\n" := by
  rw [Piece.text, lines, Class.vtableBlock, Sections.blockText_append, Sections.blockText_append,
    Sections.blockText_append, Sections.blockText_append,
    Sections.blockText_inner _ (decl.ne_empty_of_mem_vtableMembers slots),
    Sections.blockText_inner _ (ne_empty_of_mem_colonLed _)]
  simp [Sections.blockText, Sections.lineText, Sections.indentation, Line.blank, vtableName,
    ← String.toList_inj]

example :
    let size : Method := { returnType := "int", name := "size", params := [⟨"bool", ""⟩] }
    let decl : Class := { name := "A", fields := [⟨"int", "count"⟩], methods := [size] }
    (Piece.block (.body decl)).text "  " =
      "struct __A \x7b\n" ++
        "  __A_VT* __vptr;\n" ++
        "  __A();\n" ++
        "  int count;\n" ++
        "  static int size(A self, bool p0);\n" ++
        "  static Class __class();\n" ++
        "  static __A_VT __vtable;\n" ++
        "\x7d;\n\n" := by
  decide +kernel

end Block

end Blocks

end VtableHeader
