import VtableHeader.Proofs.BlockText
import VtableHeader.Proofs.Placement

/-!
# Dispatch through vtables

In a finished header the vtable of a class serves every method that the class or one of
its ancestors declares, and each of its pointers leads to the nearest class of the chain
that declares the method.  The body of that class is part of the same header and declares
the function that the pointer is bound to.
-/

namespace VtableHeader

/-- The ancestors of a class of a unit are classes of the unit. -/
theorem Ancestry.subset {classes ancestors : List Class} {decl : Class}
    (ancestry : Ancestry classes decl ancestors) : ancestors ⊆ classes := by
  induction ancestry with
  | root => simp
  | derived inherits _ ih => exact List.cons_subset.mpr ⟨inherits.mem, ih⟩

/-- The slots of a linked class are right for the chain that starts with it. -/
theorem Linked.exists_dispatches {classes : List Class} {known : Class → Option (List Slot)}
    {decl : Class} {slots : List Slot} (linked : Linked classes classes known)
    (wellDeclared : WellDeclared classes)
    (uncontested : ∀ decl ∈ classes, ¬ Contested classes decl) (member : decl ∈ classes)
    (stored : known decl = some slots) :
    ∃ ancestors, Ancestry classes decl ancestors ∧ Dispatches (decl :: ancestors) slots := by
  rcases linked.resolved wellDeclared uncontested (List.Subset.refl _) decl member with
    ⟨ancestors, inherited, own, ancestry, dispatches, effective, storedOwn⟩
  obtain rfl : own = slots := Option.some.inj (storedOwn.symm.trans stored)
  exact ⟨ancestors, ancestry, dispatches.extend
    (Class.nodup_methods_of_check (wellDeclared.checked decl member)) effective⟩

/-- The pieces of a unit hold all blocks of its classes. -/
theorem mem_unitPieces {classes : List Class} (slots : Class → List Slot) {decl : Class}
    (distinct : classes.Nodup) (member : decl ∈ classes) {block : Block}
    (kind : block ∈ [.forward decl, .body decl, .vtable decl (slots decl)]) :
    .block block ∈ unitPieces classes slots := by
  rw [← (arranged_unitPieces slots distinct).once decl member] at kind
  rcases List.mem_filterMap.mp (List.mem_filter.mp kind).1 with ⟨piece, pieceMem, found⟩
  cases piece <;> simp_all [Piece.block?]

/-- Every vtable of a header binds each method name of the chain of its class once, to the
nearest class that declares it.  It has a pointer of the type of that method, and the body of the
declaring class has a static function with the same name, return type and parameter types. -/
theorem ClassUnit.vtables_dispatch (unit : ClassUnit) (options : Options) {text : String}
    (accepted : unit.header options = .ok text) :
    ∃ (pieces : List Piece) (slots : Class → List Slot),
      text = preambleText options ++ piecesText options.indentUnit pieces ∧
      unit.vtables options =
        .ok ((Generator.byNamespace unit.classes).map fun decl => (decl, slots decl)) ∧
      ∀ decl ∈ unit.classes, .block (.vtable decl (slots decl)) ∈ pieces ∧
        ∃ ancestors, Ancestry unit.classes decl ancestors ∧
          Dispatches (decl :: ancestors) (slots decl) ∧
          ∀ slot ∈ slots decl,
            ⟨1, slot.method.returnType ++ " (*" ++ slot.method.name ++ ")(" ++
              ", ".intercalate (decl.name :: slot.method.params.map (·.typeName)) ++ ");"⟩ ∈
              decl.vtableBlock (slots decl) ∧
            ∃ declarer ∈ unit.classes,
              (decl :: ancestors).find? (·.declares slot.method.name) = some declarer ∧
              slot.declaredBy = declarer.ref ∧ slot.method ∈ declarer.methods ∧
              .block (.body declarer) ∈ pieces ∧
              ⟨1, "static " ++ slot.method.returnType ++ " " ++ slot.method.name ++ "(" ++
                ", ".intercalate (List.zipWith (fun typeName name => typeName ++ " " ++ name)
                  (declarer.name :: slot.method.params.map (·.typeName))
                  slot.method.paramNames) ++ ");"⟩ ∈
                declarer.bodyBlock := by
  rcases exists_linked_of_header accepted with
    ⟨wellDeclared, uncontested, known, slots, linked, stored, vtables, text⟩
  refine ⟨_, slots, text, vtables, ?_⟩
  intro decl member
  refine ⟨mem_unitPieces slots wellDeclared.nodup member (by simp), ?_⟩
  rcases linked.exists_dispatches wellDeclared uncontested member (stored decl member) with
    ⟨ancestors, ancestry, dispatches⟩
  refine ⟨ancestors, ancestry, dispatches, ?_⟩
  intro slot slotMem
  rcases dispatches.nearest slot slotMem with ⟨declarer, found, methodMem, bound⟩
  have declarerMem : declarer ∈ unit.classes :=
    List.cons_subset.mpr ⟨member, ancestry.subset⟩ (List.mem_of_find?_eq_some found)
  exact ⟨Class.pointer_mem_vtableBlock slotMem, declarer, declarerMem, found, bound, methodMem,
    mem_unitPieces slots wellDeclared.nodup declarerMem (by simp),
    Class.declaration_mem_bodyBlock methodMem⟩

namespace ThreeLevels

/-- The top of three levels. -/
def top : Class where
  name := "A"
  path := ⟨["x"]⟩
  methods :=
    [{ returnType := "int", name := "size", params := [⟨"bool", "exact"⟩, ⟨"int", ""⟩] },
      { returnType := "String", name := "name" }]

/-- The middle overrides `size` and adds a method. -/
def middle : Class where
  name := "B"
  path := ⟨["y"]⟩
  base := some "A"
  methods :=
    [{ returnType := "int", name := "size", params := [⟨"bool", "exact"⟩, ⟨"int", ""⟩],
       isOverride := true },
      { returnType := "bool", name := "isEmpty" }]

/-- The bottom overrides `name`. -/
def bottom : Class where
  name := "C"
  path := ⟨["x"]⟩
  base := some "y.B"
  methods := [{ returnType := "String", name := "name", isOverride := true }]

/-- The slots of the bottom: two are inherited from the middle. -/
def bottomSlots : List Slot :=
  [{ method := { returnType := "int", name := "size", params := [⟨"bool", "exact"⟩, ⟨"int", ""⟩],
                 isOverride := true },
     declaredBy := ⟨"B", ⟨["y"]⟩⟩ },
    { method := { returnType := "bool", name := "isEmpty" }, declaredBy := ⟨"B", ⟨["y"]⟩⟩ },
    { method := { returnType := "String", name := "name", isOverride := true },
      declaredBy := ⟨"C", ⟨["x"]⟩⟩ }]

end ThreeLevels

open ThreeLevels

/-- Three levels, one in another namespace. -/
def threeLevelUnit : ClassUnit where
  classes := [top, middle, bottom]

/-- The bottom inherits `size` from the middle and overrides the `name` of the top. -/
theorem threeLevelUnit_dispatch :
    ∃ (text : String) (pieces : List Piece) (slots : Class → List Slot),
      threeLevelUnit.header {} = .ok text ∧
      text = preambleText {} ++ piecesText (Options.indentUnit {}) pieces ∧
      (∀ decl ∈ threeLevelUnit.classes, .block (.vtable decl (slots decl)) ∈ pieces ∧
        ∃ ancestors, Ancestry threeLevelUnit.classes decl ancestors ∧
          Dispatches (decl :: ancestors) (slots decl)) ∧
      slots bottom = bottomSlots ∧
      (⟨1, "int (*size)(C, bool, int);"⟩ ∈ bottom.vtableBlock (slots bottom) ∧
        .block (.body middle) ∈ pieces ∧
        ⟨1, "static int size(B self, bool exact, int p1);"⟩ ∈ middle.bodyBlock) ∧
      ⟨1, "String (*name)(C);"⟩ ∈ bottom.vtableBlock (slots bottom) ∧
        .block (.body bottom) ∈ pieces ∧
        ⟨1, "static String name(C self);"⟩ ∈ bottom.bodyBlock := by
  rcases exists_eq_ok_of_toBool (threeLevelUnit.header {}) (by decide +kernel) with ⟨text, accepted⟩
  rcases threeLevelUnit.vtables_dispatch {} accepted with
    ⟨pieces, slots, written, vtables, dispatch⟩
  have stored : slots bottom = bottomSlots := by
    have place : (Generator.byNamespace threeLevelUnit.classes)[1]? = some bottom := by
      decide +kernel
    have computed : (threeLevelUnit.vtables {}).toOption.bind (·[1]?) =
        some (bottom, bottomSlots) := by
      decide +kernel
    rw [vtables] at computed
    simpa [Except.toOption, place] using computed
  have only : ∀ decl ∈ threeLevelUnit.classes, ∀ named ∈ threeLevelUnit.classes,
      named.ref = decl.ref → decl = named := by
    decide +kernel
  have bottomMem : bottom ∈ threeLevelUnit.classes := by simp [threeLevelUnit]
  have middleMem : middle ∈ threeLevelUnit.classes := by simp [threeLevelUnit]
  rcases dispatch bottom bottomMem with ⟨_, _, _, _, bound⟩
  rcases bound bottomSlots[0] (by simp [stored, bottomSlots]) with
    ⟨sizePointer, declarer, declarerMem, _, nearest, _, sizeBody, sizeLine⟩
  obtain rfl := only declarer declarerMem middle middleMem nearest
  rcases bound bottomSlots[2] (by simp [stored, bottomSlots]) with
    ⟨namePointer, declarer, declarerMem, _, nearest, _, nameBody, nameLine⟩
  obtain rfl := only declarer declarerMem bottom bottomMem nearest
  have served : ∀ decl ∈ threeLevelUnit.classes, .block (.vtable decl (slots decl)) ∈ pieces ∧
      ∃ ancestors, Ancestry threeLevelUnit.classes decl ancestors ∧
        Dispatches (decl :: ancestors) (slots decl) := by
    intro decl member
    rcases dispatch decl member with ⟨vtable, ancestors, ancestry, dispatches, _⟩
    exact ⟨vtable, ancestors, ancestry, dispatches⟩
  exact ⟨text, pieces, slots, accepted, written, served, stored,
    ⟨sizePointer, sizeBody, sizeLine⟩, namePointer, nameBody, nameLine⟩

end VtableHeader
