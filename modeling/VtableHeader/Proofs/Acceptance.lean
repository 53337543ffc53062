import VtableHeader.Proofs.Emission

/-!
# Which units are accepted

A unit has a header exactly when each of its classes passes its check, no two of them are
the same class, every base is a class that stands earlier, and every method says truly
whether it replaces an inherited one.  This is a condition on the unit alone: it does not
mention passes, groups or the class table.  Accepted units have no cyclic inheritance.
-/

namespace VtableHeader

/-- Every method is marked as an override exactly when some ancestor of its class declares
a method of that name. -/
def TrulyMarked (classes : List Class) : Prop :=
  ∀ decl ∈ classes, ∀ method ∈ decl.methods, (method.isOverride = true ↔
    ∃ ancestor, Relation.TransGen (InheritsFrom classes) decl ancestor ∧
      ancestor.declares method.name = true)

/-- Classes that make up a header. -/
structure Acceptable (classes : List Class) : Prop where
  wellDeclared : WellDeclared classes
  baseFirst : BaseFirst classes
  marked : TrulyMarked classes

variable {classes : List Class}

/-- The slots for a chain of ancestors are named after what the ancestors declare. -/
theorem Dispatches.mem_slotNames_iff {decl : Class} {ancestors : List Class}
    {inherited : List Slot} {name : String} (dispatches : Dispatches ancestors inherited)
    (wellDeclared : WellDeclared classes) (ancestry : Ancestry classes decl ancestors) :
    name ∈ slotNames inherited ↔
      ∃ ancestor, Relation.TransGen (InheritsFrom classes) decl ancestor ∧
        ancestor.declares name = true := by
  rw [dispatches.covers]
  simp only [ancestry.mem_iff wellDeclared]

namespace Linked

variable {known : Class → Option (List Slot)}

/-- In a linked unit every base stands first. -/
theorem baseFirst (linked : Linked classes classes known)
    (uncontested : ∀ decl ∈ classes, ¬ Contested classes decl) : BaseFirst classes := by
  intro before decl after split base named
  have earlier : before ⊆ classes := split ▸ List.subset_append_left before _
  have member : decl ∈ classes := by simp [split]
  rcases linked.computed split with ⟨slots, _, computed⟩
  cases computed with
  | root rootless => simp [rootless] at named
  | @derived other target inherited otherNamed denotes =>
      obtain rfl : base = other := Option.some.inj (named.symm.trans otherNamed)
      exact ⟨target, denotes.mem, denotes.widen earlier named (uncontested decl member)⟩

/-- In a linked unit every method is truly marked. -/
theorem trulyMarked (linked : Linked classes classes known)
    (wellDeclared : WellDeclared classes)
    (uncontested : ∀ decl ∈ classes, ¬ Contested classes decl) : TrulyMarked classes := by
  intro decl member method methodMem
  rcases linked.resolved wellDeclared uncontested (List.Subset.refl _) decl member with
    ⟨ancestors, inherited, slots, ancestry, dispatches, effective, _⟩
  rw [(Class.effectiveSlots_eq_ok_iff.mp effective).1 method methodMem]
  exact dispatches.mem_slotNames_iff wellDeclared ancestry

end Linked

namespace Acceptable

theorem uncontested (acceptable : Acceptable classes) :
    ∀ decl ∈ classes, ¬ Contested classes decl :=
  fun _ member => acceptable.baseFirst.not_contested member

/-- The slots of a class can be computed from those of the classes before it. -/
theorem exists_slotsFrom (acceptable : Acceptable classes) {before after : List Class}
    {decl : Class} (split : classes = before ++ decl :: after)
    {known : Class → Option (List Slot)} (linked : Linked classes before known) :
    ∃ slots, SlotsFrom classes before known decl slots := by
  have earlier : before ⊆ classes := split ▸ List.subset_append_left before _
  have member : decl ∈ classes := by simp [split]
  have effective : ∀ {ancestors inherited}, Ancestry classes decl ancestors →
      Dispatches ancestors inherited → ∃ slots, decl.effectiveSlots inherited = .ok slots := by
    intro ancestors inherited ancestry dispatches
    refine ⟨_, Class.effectiveSlots_eq_ok_iff.mpr ⟨?_, rfl⟩⟩
    intro method methodMem
    rw [dispatches.mem_slotNames_iff acceptable.wellDeclared ancestry]
    exact acceptable.marked decl member method methodMem
  cases named : decl.base with
  | none =>
      rcases effective (.root named) .nil with ⟨slots, computed⟩
      exact ⟨slots, .root named computed⟩
  | some base =>
      rcases acceptable.baseFirst before decl after split base named with
        ⟨target, targetMem, denotes⟩
      obtain ⟨ancestors, above, inherited, ancestry, dispatches, targetSlots, stored⟩ :=
        linked.resolved acceptable.wellDeclared acceptable.uncontested earlier target targetMem
      have whole : Dispatches (target :: ancestors) inherited := dispatches.extend
        (Class.nodup_methods_of_check
          (acceptable.wellDeclared.checked target (earlier targetMem))) targetSlots
      rcases effective (.derived ⟨base, named, denotes⟩ ancestry) whole with ⟨slots, computed⟩
      exact ⟨slots, .derived named
        (denotes.restrict (List.Subset.refl _) earlier targetMem) stored computed⟩

/-- An acceptable unit can be linked, as far as one has read. -/
theorem exists_linked (acceptable : Acceptable classes) {done : List Class}
    (initial : done <+: classes) : ∃ known, Linked classes done known := by
  induction done using List.reverseRecOn with
  | nil => exact ⟨_, .nil⟩
  | append_singleton done last ih =>
      rcases initial with ⟨after, split⟩
      have whole : classes = done ++ last :: after := by simp [← split]
      rcases ih ⟨last :: after, whole.symm⟩ with ⟨known, linked⟩
      rcases acceptable.exists_slotsFrom whole linked with ⟨slots, computed⟩
      have fresh : last ∉ done := acceptable.wellDeclared.notMem_before whole
      exact ⟨_, .snoc linked fresh computed⟩

end Acceptable

/-- A unit has a header exactly when its classes are acceptable, and no class of a unit that
has one is its own ancestor. -/
theorem ClassUnit.accepted_iff (unit : ClassUnit) (options : Options) :
    ((∃ text, unit.header options = .ok text) ↔ Acceptable unit.classes) ∧
      ∀ text, unit.header options = .ok text →
        ∀ decl, ¬ Relation.TransGen (InheritsFrom unit.classes) decl decl := by
  have acceptable : ∀ text, unit.header options = .ok text → Acceptable unit.classes := by
    intro text accepted
    rcases header_eq_ok_iff.mp accepted with ⟨wellDeclared, uncontested, known, linked, _⟩
    exact ⟨wellDeclared, linked.baseFirst uncontested,
      linked.trulyMarked wellDeclared uncontested⟩
  refine ⟨⟨?_, ?_⟩, ?_⟩
  · rintro ⟨text, accepted⟩
    exact acceptable text accepted
  · intro acceptable
    rcases acceptable.exists_linked List.prefix_rfl with ⟨known, linked⟩
    exact ⟨_, header_eq_ok_iff.mpr
      ⟨acceptable.wellDeclared, acceptable.uncontested, known, linked, rfl⟩⟩
  · intro text accepted
    have sound := acceptable text accepted
    exact sound.baseFirst.acyclic sound.wellDeclared

/-- Two classes of one name; the base of `y.B` is the one in its own namespace. -/
def siblingUnit : ClassUnit where
  classes :=
    [{ name := "A", path := ⟨["x"]⟩ },
      { name := "A", path := ⟨["y"]⟩, methods := [{ returnType := "int", name := "size" }] },
      { name := "B", path := ⟨["y"]⟩, base := some "A",
        methods := [{ returnType := "int", name := "size", isOverride := true }] }]

theorem siblingUnit_accepted :
    Acceptable siblingUnit.classes ∧
      ∀ decl, ¬ Relation.TransGen (InheritsFrom siblingUnit.classes) decl decl := by
  rcases exists_eq_ok_of_toBool (siblingUnit.header {}) (by decide +kernel) with ⟨text, accepted⟩
  rcases siblingUnit.accepted_iff {} with ⟨exactly, acyclic⟩
  exact ⟨exactly.mp ⟨text, accepted⟩, acyclic text accepted⟩

end VtableHeader
