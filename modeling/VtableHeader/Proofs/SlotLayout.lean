import Mathlib.Data.List.Forall2
import VtableHeader.Proofs.SlotBinding

/-!
# Order of slots

The slots of a class stand in three parts: those it inherits and leaves alone, those it
inherits and overrides, and those of its new methods.  Within each part the order is the one
they come in.  Overridden slots leave their places for the second part, so a vtable can be read
through the vtable struct of the base only where this moves nothing: when they stand last among
the inherited ones already.
-/

namespace VtableHeader

/-! ## Lists that are taken apart by a test -/

section Partition

variable {α β : Type} {test : α → Bool} {items rest : List α}

/-- The items that pass come last exactly when moving them to the end changes nothing. -/
theorem prefix_filter_append_iff :
    items <+: items.filter (!test ·) ++ items.filter test ++ rest ↔
      items.filter test <:+ items := by
  have total : items.length = (items.filter (!test ·) ++ items.filter test).length := by
    rw [List.length_append, Nat.add_comm]
    exact List.length_eq_length_filter_add test
  constructor
  · intro unmoved
    have inside := List.prefix_of_prefix_length_le unmoved (List.prefix_append _ rest)
      (Nat.le_of_eq total)
    exact ⟨_, (inside.eq_of_length total).symm⟩
  · rintro ⟨front, split⟩
    have filtered := congrArg (List.filter test) split
    simp only [List.filter_append, List.filter_filter, Bool.and_self] at filtered
    have free : front.filter test = [] := List.append_cancel_right filtered
    have kept : items.filter (!test ·) = front := by
      rw [← split, List.filter_append, List.filter_filter]
      simpa using List.filter_eq_nil_iff.mp free
    rw [kept, split]
    exact List.prefix_append items rest

/-- A test on the images of items selects a suffix of the images when it selects one of the
items. -/
theorem filter_map_suffix_iff {image : α → β} {test : β → Bool} :
    (items.map image).filter test <:+ items.map image ↔
      items.filter (test ∘ image) <:+ items := by
  rw [List.filter_map]
  constructor
  · rintro ⟨front, split⟩
    have back : (items.drop front.length).map image = (items.filter (test ∘ image)).map image := by
      rw [List.map_drop, ← split, List.drop_left]
    have selected : (items.drop front.length).filter (test ∘ image) = items.drop front.length := by
      rw [List.filter_eq_self]
      intro item member
      have image_mem := List.mem_map_of_mem (f := image) member
      rw [back] at image_mem
      rcases List.mem_map.mp image_mem with ⟨other, otherMem, same⟩
      rw [Function.comp_apply, ← same]
      exact (List.mem_filter.mp otherMem).2
    have parts : items.filter (test ∘ image) =
        (items.take front.length).filter (test ∘ image) ++ items.drop front.length := by
      conv_lhs => rw [← List.take_append_drop front.length items, List.filter_append, selected]
    have lengths := congrArg List.length back
    rw [List.length_map, List.length_map, parts, List.length_append] at lengths
    have none : (items.take front.length).filter (test ∘ image) = [] := by
      apply List.eq_nil_of_length_eq_zero
      omega
    rw [parts, none, List.nil_append]
    exact List.drop_suffix _ _
  · exact fun suffix => suffix.map image

/-- Selecting and translating items at once translates the selected ones in their order. -/
theorem forall₂_filter_filterMap {related : α → β → Prop} {translate : α → Option β}
    (selects : ∀ item ∈ items, test item = (translate item).isSome)
    (relates : ∀ item ∈ items, ∀ result, translate item = some result → related item result) :
    List.Forall₂ related (items.filter test) (items.filterMap translate) := by
  induction items with
  | nil => exact .nil
  | cons item others ih =>
      rcases List.forall_mem_cons.mp selects with ⟨here, later⟩
      rcases List.forall_mem_cons.mp relates with ⟨relatesHere, relatesLater⟩
      have tail := ih later relatesLater
      cases translated : translate item with
      | none => simpa [here, translated] using tail
      | some result =>
          rw [List.filter_cons_of_pos (by simp [here, translated]),
            List.filterMap_cons_some translated]
          exact .cons (relatesHere result translated) tail

end Partition

namespace Class

/-- The inherited slots whose names the class does not declare. -/
def untouched (decl : Class) (inherited : List Slot) : List Slot :=
  inherited.filter (!decl.declares ·.method.name)

/-- The inherited slots whose names the class declares. -/
def overridden (decl : Class) (inherited : List Slot) : List Slot :=
  inherited.filter (decl.declares ·.method.name)

/-- The methods of the class whose names are not inherited. -/
def additions (decl : Class) (inherited : List Slot) : List Method :=
  decl.methods.filter (·.name ∉ slotNames inherited)

/-- A slot keeps its name and is bound to the method of that name in the class. -/
structure Rebinds (decl : Class) (old new : Slot) : Prop where
  name : new.method.name = old.method.name
  method : new.method ∈ decl.methods
  declaredBy : new.declaredBy = decl.ref

/-- Slots of a class beside those it inherits: what is untouched, what is overridden and what is
new, in this order. -/
structure LaysOut (decl : Class) (inherited slots : List Slot) : Prop where
  /-- Untouched slots as they are, overridden ones rebound in place, new ones in the order of
  their declarations. -/
  parts : ∃ rebound, List.Forall₂ decl.Rebinds (decl.overridden inherited) rebound ∧
    slots = decl.untouched inherited ++ rebound ++
      (decl.additions inherited).map fun method => ⟨method, decl.ref⟩
  /-- No name has two slots. -/
  distinct : (slotNames slots).Nodup
  /-- Nothing is lost, and each new method has one slot. -/
  length : slots.length = inherited.length + (decl.additions inherited).length
  /-- The vtable struct of the base fits the front of the vtable exactly when the overridden slots
  are the last ones of the base. -/
  compatible_iff : slotNames inherited <+: slotNames slots ↔ decl.overridden inherited <:+ inherited

variable {decl : Class} {inherited slots : List Slot}
  (marked : ∀ method ∈ decl.methods,
    (method.isOverride = true ↔ method.name ∈ slotNames inherited))

include marked

/-- With true marks, an inherited name is overridden exactly when the class declares it. -/
theorem overrideOf?_isSome_eq {name : String} (member : name ∈ slotNames inherited) :
    (decl.overrideOf? name).isSome = decl.declares name := by
  have free := overrideOf?_isNone_iff marked member
  cases found : decl.overrideOf? name with
  | none => simpa [found] using free
  | some method => simpa [found] using free

theorem keptSlots_eq_untouched : decl.keptSlots inherited = decl.untouched inherited := by
  apply List.filter_congr
  intro slot member
  rw [← overrideOf?_isSome_eq marked (List.mem_map_of_mem member), Option.not_isSome]

theorem forall₂_rebinds_reboundSlots :
    List.Forall₂ decl.Rebinds (decl.overridden inherited) (decl.reboundSlots inherited) := by
  apply forall₂_filter_filterMap
  · intro slot member
    rw [Option.isSome_map, overrideOf?_isSome_eq marked (List.mem_map_of_mem member)]
  · intro slot _ result mapped
    rcases Option.map_eq_some_iff.mp mapped with ⟨method, found, rfl⟩
    rcases overrideOf?_eq_some found with ⟨member, _, named⟩
    exact ⟨named, member, rfl⟩

theorem methods_filter_eq_additions :
    decl.methods.filter (!·.isOverride) = decl.additions inherited := by
  apply List.filter_congr
  intro method member
  have truly := marked method member
  cases mark : method.isOverride <;> simp_all

/-- The names of the slots, part by part. -/
theorem slotNames_eq_parts :
    slotNames (decl.keptSlots inherited ++ decl.reboundSlots inherited ++ decl.newSlots) =
      (slotNames inherited).filter (!decl.declares ·) ++
        (slotNames inherited).filter decl.declares ++
        (decl.additions inherited).map (·.name) := by
  have shape : slotNames (decl.keptSlots inherited ++ decl.reboundSlots inherited ++
      decl.newSlots) = slotNames (decl.keptSlots inherited) ++
        slotNames (decl.reboundSlots inherited) ++ slotNames decl.newSlots := by
    simp [slotNames]
  have kept : (slotNames inherited).filter (fun name => (decl.overrideOf? name).isNone) =
      (slotNames inherited).filter (!decl.declares ·) := by
    apply List.filter_congr
    intro name member
    rw [← overrideOf?_isSome_eq marked member, Option.not_isSome]
  have rebound : (slotNames inherited).filter (fun name => (decl.overrideOf? name).isSome) =
      (slotNames inherited).filter decl.declares :=
    List.filter_congr fun name member => overrideOf?_isSome_eq marked member
  rw [shape, slotNames_keptSlots, slotNames_reboundSlots, slotNames_newSlots, kept, rebound,
    methods_filter_eq_additions marked]

/-- The slots of a class with true marks are laid out in three parts. -/
theorem laysOut_of_marked (distinct : (slotNames inherited).Nodup)
    (methodsDistinct : (decl.methods.map (·.name)).Nodup) :
    decl.LaysOut inherited
      (decl.keptSlots inherited ++ decl.reboundSlots inherited ++ decl.newSlots) where
  parts := by
    refine ⟨decl.reboundSlots inherited, forall₂_rebinds_reboundSlots marked, ?_⟩
    rw [keptSlots_eq_untouched marked, newSlots, methods_filter_eq_additions marked]
  distinct := nodup_slotNames_append marked distinct methodsDistinct
  length := by
    have names := congrArg List.length (slotNames_eq_parts marked)
    have inheritedNames := List.length_eq_length_filter_add (l := slotNames inherited) decl.declares
    simp only [slotNames, List.length_map, List.length_append] at names inheritedNames ⊢
    omega
  compatible_iff := by
    rw [slotNames_eq_parts marked, prefix_filter_append_iff]
    exact filter_map_suffix_iff

end Class

/-- Slots of a class are computed exactly when every method says truly whether its name is
inherited, and then they are laid out in three parts. -/
theorem Class.effectiveSlots_layout (decl : Class) (inherited : List Slot)
    (distinct : (slotNames inherited).Nodup)
    (methodsDistinct : (decl.methods.map (·.name)).Nodup) :
    ((∃ slots, decl.effectiveSlots inherited = .ok slots) ↔
      ∀ method ∈ decl.methods,
        (method.isOverride = true ↔ method.name ∈ slotNames inherited)) ∧
    ∀ slots, decl.effectiveSlots inherited = .ok slots → decl.LaysOut inherited slots := by
  constructor
  · simp only [effectiveSlots_eq_ok_iff, exists_and_left, exists_eq, and_true]
  · intro slots effective
    rcases effectiveSlots_eq_ok_iff.mp effective with ⟨marked, rfl⟩
    exact laysOut_of_marked marked distinct methodsDistinct

/-- The slots of a base with three methods. -/
def baseSlots : List Slot :=
  ["hash", "equals", "toString"].map fun name =>
    { method := { returnType := "int", name := name }, declaredBy := ⟨"A", .root⟩ }

/-- A class with a new method that overrides one of the base. -/
def overridingClass (name : String) : Class where
  name := "B"
  base := some "A"
  methods :=
    [{ returnType := "void", name := "reset" },
      { returnType := "long", name := name, isOverride := true }]

/-- Overriding the last slot of the base keeps its vtable struct usable, overriding one in the
middle does not. -/
theorem overridingClass_layout :
    (∃ slots, (overridingClass "toString").effectiveSlots baseSlots = .ok slots ∧
      (overridingClass "toString").LaysOut baseSlots slots ∧
      slotNames baseSlots <+: slotNames slots) ∧
    ∃ slots, (overridingClass "equals").effectiveSlots baseSlots = .ok slots ∧
      (overridingClass "equals").LaysOut baseSlots slots ∧
      ¬ slotNames baseSlots <+: slotNames slots := by
  have last := (overridingClass "toString").effectiveSlots_layout baseSlots (by decide) (by decide)
  have middle := (overridingClass "equals").effectiveSlots_layout baseSlots (by decide) (by decide)
  rcases last.1.mpr (by decide) with ⟨slots, effective⟩
  rcases middle.1.mpr (by decide) with ⟨otherSlots, otherEffective⟩
  have laysOut := last.2 slots effective
  have otherLaysOut := middle.2 otherSlots otherEffective
  refine ⟨⟨slots, effective, laysOut, ?_⟩, otherSlots, otherEffective, otherLaysOut, ?_⟩
  · rw [laysOut.compatible_iff]
    decide
  · rw [otherLaysOut.compatible_iff]
    decide

end VtableHeader
