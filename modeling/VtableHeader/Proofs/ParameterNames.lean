import VtableHeader.Proofs.BlockText
import VtableHeader.Proofs.CheckedMembers

/-!
# Names of printed parameters

The static function of a method names all its parameters: the receiver, the parameters that are
given a name, and the others after their positions.  The check of a class compares the given
names with each other and with the receiver; the names made from positions come into being only
when the function is printed.  So a parameter may be given the name that an unnamed one gets, and
this is the only way in which two parameters of one function can end up with the same name.
-/

namespace VtableHeader

/-- The name of an unnamed parameter at `index`. -/
def positionName (index : Nat) : String :=
  "p" ++ toString index

/-- A parameter is given the name that an unnamed one gets from its position. -/
def Method.TakesPosition (method : Method) : Prop :=
  ∃ given ∈ method.params, ∃ other ∈ method.params.zipIdx,
    other.1.name.isEmpty = true ∧ given.name = positionName other.2

instance (method : Method) : Decidable method.TakesPosition :=
  inferInstanceAs (Decidable (∃ given ∈ method.params, ∃ other ∈ method.params.zipIdx,
    other.1.name.isEmpty = true ∧ given.name = positionName other.2))

theorem positionName_injective : Function.Injective positionName := by
  intro first second same
  have digits : Nat.toDigits 10 first = Nat.toDigits 10 second := by
    simpa [positionName, Nat.repr_eq_ofList_toDigits, String.ofList_inj] using same
  calc
    first = Nat.ofDigitChars 10 (Nat.toDigits 10 first) 0 := Nat.ofDigitChars_ten_toDigits.symm
    _ = Nat.ofDigitChars 10 (Nat.toDigits 10 second) 0 := by rw [digits]
    _ = second := Nat.ofDigitChars_ten_toDigits

theorem isEmpty_positionName (index : Nat) : (positionName index).isEmpty = false := by
  simp [positionName]

theorem positionName_ne_receiverName (index : Nat) : positionName index ≠ Class.receiverName := by
  intro same
  have letters := congrArg (fun text => text.toList.head?) same
  simp [positionName, Class.receiverName] at letters

theorem Param.nameAt_of_unnamed {param : Param} (unnamed : param.name.isEmpty = true)
    (index : Nat) : param.nameAt index = positionName index := by
  rw [nameAt, if_pos unnamed, positionName]

theorem Param.nameAt_of_named {param : Param} (named : param.name.isEmpty = false) (index : Nat) :
    param.nameAt index = param.name := by
  simp [nameAt, named]

theorem nodup_zipIdx {α : Type} (items : List α) : items.zipIdx.Nodup := by
  apply List.Nodup.of_map Prod.snd
  rw [List.zipIdx_map_snd]
  exact List.nodup_range'

/-- Distinct given names tell named parameters apart. -/
theorem Class.eq_of_nodup_givenNames {params : List Param} (distinct : (givenNames params).Nodup)
    {first second : Param × Nat} (firstMem : first ∈ params.zipIdx)
    (secondMem : second ∈ params.zipIdx) (firstNamed : first.1.name.isEmpty = false)
    (secondNamed : second.1.name.isEmpty = false) (same : first.1.name = second.1.name) :
    first = second := by
  have placed : givenNames params =
      (params.zipIdx.filter fun entry => !entry.1.name.isEmpty).map (·.1.name) := by
    have whole : (params.zipIdx.map Prod.fst).map (·.name) = params.map (·.name) := by
      rw [List.zipIdx_map_fst]
    rw [givenNames, ← whole, List.map_map, List.filter_map]
    rfl
  rw [placed] at distinct
  apply List.inj_on_of_nodup_map distinct _ _ same
  · exact List.mem_filter.mpr ⟨firstMem, by simp [firstNamed]⟩
  · exact List.mem_filter.mpr ⟨secondMem, by simp [secondNamed]⟩

namespace Method

variable {method : Method}

/-- Printed names are distinct when they tell the parameters apart and none is the receiver's. -/
theorem nodup_paramNames_iff_forall :
    method.paramNames.Nodup ↔
      (∀ entry ∈ method.params.zipIdx, entry.1.nameAt entry.2 ≠ Class.receiverName) ∧
        ∀ first ∈ method.params.zipIdx, ∀ second ∈ method.params.zipIdx,
          first.1.nameAt first.2 = second.1.nameAt second.2 → first = second := by
  rw [paramNames, List.nodup_cons, List.mapIdx_eq_zipIdx_map,
    List.nodup_map_iff_inj_on (nodup_zipIdx _)]
  simp

/-- A named and an unnamed parameter with one printed name take a name from a position. -/
theorem takesPosition_of_nameAt_eq {given unnamed : Param × Nat}
    (givenMem : given ∈ method.params.zipIdx) (unnamedMem : unnamed ∈ method.params.zipIdx)
    (named : given.1.name.isEmpty = false) (empty : unnamed.1.name.isEmpty = true)
    (same : given.1.nameAt given.2 = unnamed.1.nameAt unnamed.2) : method.TakesPosition := by
  rw [Param.nameAt_of_named named, Param.nameAt_of_unnamed empty] at same
  exact ⟨given.1, List.fst_mem_of_mem_zipIdx givenMem, unnamed, unnamedMem, empty, same⟩

/-- Unnamed parameters have different positions, and so different names. -/
theorem eq_of_nameAt_eq_of_unnamed {first second : Param × Nat}
    (firstMem : first ∈ method.params.zipIdx) (secondMem : second ∈ method.params.zipIdx)
    (firstEmpty : first.1.name.isEmpty = true) (secondEmpty : second.1.name.isEmpty = true)
    (same : first.1.nameAt first.2 = second.1.nameAt second.2) : first = second := by
  rw [Param.nameAt_of_unnamed firstEmpty, Param.nameAt_of_unnamed secondEmpty] at same
  have samePlace := positionName_injective same
  have firstFound := List.mem_zipIdx_iff_getElem?.mp firstMem
  have secondFound := List.mem_zipIdx_iff_getElem?.mp secondMem
  rw [samePlace, secondFound] at firstFound
  exact Prod.ext (Option.some.inj firstFound).symm samePlace

/-- A parameter that takes a position has the printed name of another. -/
theorem exists_nameAt_eq_of_takesPosition (takes : method.TakesPosition) :
    ∃ given ∈ method.params.zipIdx, ∃ unnamed ∈ method.params.zipIdx,
      given.1.nameAt given.2 = unnamed.1.nameAt unnamed.2 ∧ given ≠ unnamed := by
  rcases takes with ⟨given, givenMem, unnamed, unnamedMem, empty, same⟩
  rcases List.mem_iff_getElem?.mp givenMem with ⟨index, found⟩
  have named : given.name.isEmpty = false := by
    rw [same]
    exact isEmpty_positionName unnamed.2
  refine ⟨(given, index), List.mk_mem_zipIdx_iff_getElem?.mpr found, unnamed, unnamedMem, ?_, ?_⟩
  · rw [Param.nameAt_of_named named, Param.nameAt_of_unnamed empty, same]
  · rintro rfl
    simp [named] at empty

section NewNames

variable (new : NewNames [Class.receiverName] (Class.givenNames method.params))

include new

theorem nameAt_ne_receiverName {entry : Param × Nat} (member : entry ∈ method.params.zipIdx) :
    entry.1.nameAt entry.2 ≠ Class.receiverName := by
  intro same
  cases named : entry.1.name.isEmpty with
  | true =>
      rw [Param.nameAt_of_unnamed named] at same
      exact positionName_ne_receiverName entry.2 same
  | false =>
      rw [Param.nameAt_of_named named] at same
      have given : entry.1.name ∈ Class.givenNames method.params := by
        simp only [Class.givenNames, List.mem_filter, named, Bool.not_false, and_true]
        exact List.mem_map_of_mem (List.fst_mem_of_mem_zipIdx member)
      exact new.2 _ given (by simp [same])

/-- When the given names are new, the printed ones are distinct unless a name is taken from a
position. -/
theorem nodup_paramNames_iff : method.paramNames.Nodup ↔ ¬ method.TakesPosition := by
  rw [nodup_paramNames_iff_forall]
  constructor
  · rintro ⟨_, alike⟩ takes
    rcases exists_nameAt_eq_of_takesPosition takes with
      ⟨given, givenMem, unnamed, unnamedMem, same, differ⟩
    exact differ (alike given givenMem unnamed unnamedMem same)
  · intro free
    refine ⟨fun _ member => nameAt_ne_receiverName new member, ?_⟩
    intro first firstMem second secondMem same
    cases firstNamed : first.1.name.isEmpty <;> cases secondNamed : second.1.name.isEmpty
    · rw [Param.nameAt_of_named firstNamed, Param.nameAt_of_named secondNamed] at same
      exact Class.eq_of_nodup_givenNames new.1 firstMem secondMem firstNamed secondNamed same
    · exact absurd
        (takesPosition_of_nameAt_eq firstMem secondMem firstNamed secondNamed same) free
    · exact absurd
        (takesPosition_of_nameAt_eq secondMem firstMem secondNamed firstNamed same.symm) free
    · exact eq_of_nameAt_eq_of_unnamed firstMem secondMem firstNamed secondNamed same

end NewNames

end Method

/-- The static function of a method of a checked class names its parameters differently, unless
a parameter is given the name that an unnamed one gets from its position. -/
theorem Class.paramNames_distinct_iff (decl : Class) (checked : decl.check = .ok ())
    {method : Method} (member : method ∈ decl.methods) :
    (method.paramNames.Nodup ↔ ¬ method.TakesPosition) ∧
      ⟨1, "static " ++ method.returnType ++ " " ++ method.name ++ "(" ++ ", ".intercalate
        (List.zipWith (fun typeName name => typeName ++ " " ++ name)
          (decl.name :: method.params.map (·.typeName)) method.paramNames) ++ ");"⟩ ∈
        decl.bodyBlock := by
  constructor
  · exact Method.nodup_paramNames_iff (newNames_givenNames_of_check checked member)
  · exact declaration_mem_bodyBlock member

/-- A method whose second parameter is unnamed and whose first is called after a position that
it does not have. -/
def sparedMethod : Method where
  returnType := "int"
  name := "size"
  params := [⟨"int", "p0"⟩, ⟨"bool", ""⟩, ⟨"int", "p7"⟩]

theorem sparedMethod_paramNames :
    ({ name := "A", methods := [sparedMethod] } : Class).check = .ok () ∧
      sparedMethod.paramNames = ["self", "p0", "p1", "p7"] ∧ sparedMethod.paramNames.Nodup := by
  have checked : ({ name := "A", methods := [sparedMethod] } : Class).check = .ok () := by
    decide +kernel
  have distinct := Class.paramNames_distinct_iff _ checked List.mem_cons_self
  exact ⟨checked, by decide +kernel, distinct.1.mpr (by decide +kernel)⟩

/-- A method whose first parameter is called after the position of its second. -/
def takingMethod : Method where
  returnType := "int"
  name := "size"
  params := [⟨"int", "p1"⟩, ⟨"bool", ""⟩]

/-- A class passes its check although a printed function names two parameters alike. -/
theorem takingMethod_repeats_paramName :
    ({ name := "A", methods := [takingMethod] } : Class).check = .ok () ∧
      takingMethod.paramNames = ["self", "p1", "p1"] ∧ ¬ takingMethod.paramNames.Nodup ∧
      ⟨1, "static int size(A self, int p1, bool p1);"⟩ ∈
        ({ name := "A", methods := [takingMethod] } : Class).bodyBlock := by
  decide +kernel

end VtableHeader
