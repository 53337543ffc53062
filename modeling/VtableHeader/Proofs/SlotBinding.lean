import Mathlib.Data.List.Nodup
import VtableHeader.Proofs.CheckedClass

/-!
# Binding of slots along a chain of classes

The slots of a class are right for a chain of classes, the class itself first, when
they hold every method name that some class of the chain declares, each once, and
each is bound to the first class of the chain that declares the name.  One class
in front of a chain is one step of this: slots that were right for the chain of the
base become right for the longer chain by keeping, rebinding and appending.
-/

namespace VtableHeader

namespace Class

/-- Whether a class itself declares a method of the given name. -/
def declares (decl : Class) (name : String) : Bool :=
  decl.methods.any (·.name == name)

@[simp]
theorem declares_iff {decl : Class} {name : String} :
    decl.declares name = true ↔ ∃ method ∈ decl.methods, method.name = name := by
  simp [declares]

end Class

/-- The names of slots in their order. -/
def slotNames (slots : List Slot) : List String :=
  slots.map (·.method.name)

/-- Slots that serve every method name of a chain once, from the first class of the
chain that declares it. -/
structure Dispatches (chain : List Class) (slots : List Slot) : Prop where
  distinct : (slotNames slots).Nodup
  covers : ∀ name, name ∈ slotNames slots ↔ ∃ decl ∈ chain, decl.declares name = true
  nearest : ∀ slot ∈ slots, ∃ declarer,
    chain.find? (·.declares slot.method.name) = some declarer ∧
      slot.method ∈ declarer.methods ∧ slot.declaredBy = declarer.ref

namespace Class

variable {decl : Class} {inherited slots : List Slot} {method : Method} {name : String}

theorem checkOverride_eq_ok_iff :
    decl.checkOverride inherited method = .ok () ↔
      (method.isOverride = true ↔ method.name ∈ slotNames inherited) := by
  have named : inherited.any (·.method.name == method.name) = true ↔
      method.name ∈ slotNames inherited := by
    simp [slotNames]
  rw [← named]
  unfold checkOverride
  cases method.isOverride <;>
    cases inherited.any (·.method.name == method.name) <;> simp

/-- Slots are computed when every mark agrees with what is inherited. -/
theorem effectiveSlots_eq_ok_iff :
    decl.effectiveSlots inherited = .ok slots ↔
      (∀ method ∈ decl.methods,
        (method.isOverride = true ↔ method.name ∈ slotNames inherited)) ∧
      slots = decl.keptSlots inherited ++ decl.reboundSlots inherited ++ decl.newSlots := by
  unfold effectiveSlots
  rw [check_bind_eq_ok_iff, forM_eq_ok_iff]
  simp only [checkOverride_eq_ok_iff, pure, Except.pure, Except.ok.injEq]
  rw [eq_comm (b := slots)]

theorem overrideOf?_eq_none_iff :
    decl.overrideOf? name = none ↔
      ∀ method ∈ decl.methods, method.isOverride = true → method.name ≠ name := by
  simp [overrideOf?]

theorem overrideOf?_eq_some (found : decl.overrideOf? name = some method) :
    method ∈ decl.methods ∧ method.isOverride = true ∧ method.name = name := by
  unfold overrideOf? at found
  have member := List.mem_of_find?_eq_some found
  have same := List.find?_some found
  rw [List.mem_reverse, List.mem_filter] at member
  exact ⟨member.1, member.2, by simpa using same⟩

theorem slotNames_keptSlots :
    slotNames (decl.keptSlots inherited) =
      (slotNames inherited).filter fun name => (decl.overrideOf? name).isNone := by
  simp [slotNames, keptSlots, List.filter_map, Function.comp_def]

theorem slotNames_reboundSlots :
    slotNames (decl.reboundSlots inherited) =
      (slotNames inherited).filter fun name => (decl.overrideOf? name).isSome := by
  induction inherited with
  | nil => rfl
  | cons slot rest ih =>
      simp only [slotNames, reboundSlots, List.filterMap_cons, List.map_cons,
        List.filter_cons] at ih ⊢
      cases found : decl.overrideOf? slot.method.name with
      | none => simpa using ih
      | some method =>
          have same := (overrideOf?_eq_some found).2.2
          simpa [same] using ih

theorem slotNames_newSlots :
    slotNames decl.newSlots = (decl.methods.filter (!·.isOverride)).map (·.name) := by
  simp [slotNames, newSlots]

theorem mem_slotNames_newSlots_iff :
    name ∈ slotNames decl.newSlots ↔
      ∃ method ∈ decl.methods, method.isOverride = false ∧ method.name = name := by
  simp [slotNames_newSlots, and_assoc]

end Class

/-! ## One more class in front -/

section Extension

variable {decl : Class} {inherited slots : List Slot}
  (marked : ∀ method ∈ decl.methods,
    (method.isOverride = true ↔ method.name ∈ slotNames inherited))

include marked

/-- An inherited name is overridden exactly when the class declares it. -/
theorem overrideOf?_isNone_iff {name : String} (member : name ∈ slotNames inherited) :
    (decl.overrideOf? name).isNone = true ↔ decl.declares name = false := by
  rw [Option.isNone_iff_eq_none, Class.overrideOf?_eq_none_iff, ← Bool.not_eq_true,
    Class.declares_iff]
  constructor
  · rintro free ⟨method, methodMem, rfl⟩
    exact free method methodMem ((marked method methodMem).mpr member) rfl
  · rintro undeclared method methodMem _ rfl
    exact undeclared ⟨method, methodMem, rfl⟩

/-- The names of the result are those inherited and those declared. -/
theorem mem_slotNames_append_iff {name : String} :
    name ∈ slotNames (decl.keptSlots inherited ++ decl.reboundSlots inherited ++
        decl.newSlots) ↔
      name ∈ slotNames inherited ∨ decl.declares name = true := by
  have parts : name ∈ slotNames (decl.keptSlots inherited ++ decl.reboundSlots inherited ++
        decl.newSlots) ↔
      (name ∈ slotNames inherited ∨ name ∈ slotNames decl.newSlots) := by
    unfold slotNames
    rw [List.map_append, List.map_append, List.mem_append, List.mem_append]
    change (name ∈ slotNames _ ∨ name ∈ slotNames _) ∨ name ∈ slotNames _ ↔
      name ∈ slotNames _ ∨ _
    rw [Class.slotNames_keptSlots, Class.slotNames_reboundSlots, List.mem_filter,
      List.mem_filter, ← and_or_left]
    cases decl.overrideOf? name <;> simp [slotNames]
  rw [parts, Class.mem_slotNames_newSlots_iff, Class.declares_iff]
  constructor
  · rintro (old | ⟨method, methodMem, _, named⟩)
    · exact .inl old
    · exact .inr ⟨method, methodMem, named⟩
  · rintro (old | ⟨method, methodMem, rfl⟩)
    · exact .inl old
    · cases mark : method.isOverride with
      | false => exact .inr ⟨method, methodMem, mark, rfl⟩
      | true => exact .inl ((marked method methodMem).mp mark)

theorem nodup_slotNames_append (distinct : (slotNames inherited).Nodup)
    (methodsDistinct : (decl.methods.map (·.name)).Nodup) :
    (slotNames (decl.keptSlots inherited ++ decl.reboundSlots inherited ++
      decl.newSlots)).Nodup := by
  have shape : slotNames (decl.keptSlots inherited ++ decl.reboundSlots inherited ++
      decl.newSlots) = slotNames (decl.keptSlots inherited) ++
        slotNames (decl.reboundSlots inherited) ++ slotNames decl.newSlots := by
    simp [slotNames]
  rw [shape, List.nodup_append', List.nodup_append', Class.slotNames_keptSlots,
    Class.slotNames_reboundSlots, Class.slotNames_newSlots]
  refine ⟨⟨distinct.filter _, distinct.filter _, ?_⟩, ?_, ?_⟩
  · intro name kept rebound
    have none := (List.mem_filter.mp kept).2
    have some := (List.mem_filter.mp rebound).2
    cases found : decl.overrideOf? name <;> simp [found] at none some
  · exact methodsDistinct.sublist (List.filter_sublist.map _)
  · intro name old new
    have inheritedName : name ∈ slotNames inherited := by
      rcases List.mem_append.mp old with kept | rebound
      · exact (List.mem_filter.mp kept).1
      · exact (List.mem_filter.mp rebound).1
    rcases Class.mem_slotNames_newSlots_iff.mp (Class.slotNames_newSlots ▸ new) with
      ⟨method, methodMem, mark, rfl⟩
    simp [(marked method methodMem).mpr inheritedName] at mark

end Extension

/-- A class in front of a chain turns slots for the chain into slots for both. -/
theorem Dispatches.extend {chain : List Class} {decl : Class} {inherited slots : List Slot}
    (dispatches : Dispatches chain inherited)
    (methodsDistinct : (decl.methods.map (·.name)).Nodup)
    (effective : decl.effectiveSlots inherited = .ok slots) :
    Dispatches (decl :: chain) slots := by
  rcases Class.effectiveSlots_eq_ok_iff.mp effective with ⟨marked, rfl⟩
  have own : ∀ method ∈ decl.methods,
      (decl :: chain).find? (·.declares method.name) = some decl := by
    intro method member
    apply List.find?_cons_of_pos
    exact Class.declares_iff.mpr ⟨method, member, rfl⟩
  refine ⟨nodup_slotNames_append marked dispatches.distinct methodsDistinct, ?_, ?_⟩
  · intro name
    rw [mem_slotNames_append_iff marked, dispatches.covers]
    simp only [List.exists_mem_cons_iff]
    exact or_comm
  · intro slot member
    rcases List.mem_append.mp member with old | new
    · rcases List.mem_append.mp old with kept | rebound
      -- A kept slot passes over `decl`, which does not declare the name.
      · rcases List.mem_filter.mp kept with ⟨slotMem, free⟩
        have undeclared := (overrideOf?_isNone_iff marked
          (List.mem_map_of_mem slotMem)).mp free
        rcases dispatches.nearest slot slotMem with ⟨declarer, found, methodMem, bound⟩
        refine ⟨declarer, ?_, methodMem, bound⟩
        rw [List.find?_cons_of_neg (by simp [undeclared]), found]
      · rcases List.mem_filterMap.mp rebound with ⟨source, _, mapped⟩
        rcases Option.map_eq_some_iff.mp mapped with ⟨method, found, rfl⟩
        rcases Class.overrideOf?_eq_some found with ⟨methodMem, _, _⟩
        exact ⟨decl, own method methodMem, methodMem, rfl⟩
    · rcases List.mem_map.mp new with ⟨method, methodMem, rfl⟩
      have methodMem := (List.mem_filter.mp methodMem).1
      exact ⟨decl, own method methodMem, methodMem, rfl⟩

/-- A class without a base starts from no slots. -/
theorem Dispatches.nil : Dispatches [] [] where
  distinct := List.nodup_nil
  covers := by simp [slotNames]
  nearest := by simp

end VtableHeader
