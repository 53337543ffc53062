import Mathlib.Data.List.Rotate
import VtableHeader.Proofs.Acceptance
import VtableHeader.Proofs.Placement

/-!
# Headers of related units

What a header shows of a class is its slots and the text of its three blocks.  Both depend on
the class and its ancestors only.  `SlotsOf` says which slots a class has without an order of
linking, and it can be carried over to any other list of classes in which the bases mean the
same.

Two relations between units are of this kind.  When a unit is put into another order that is
accepted too, every class keeps its slots and its text.  When classes are appended to a unit
and the whole is accepted, the unit was accepted before, and its classes keep theirs.
-/

namespace VtableHeader

/-- The slots that a class gets from its ancestors, whatever the order of the classes. -/
inductive SlotsOf (classes : List Class) : Class → List Slot → Prop where
  | root {decl : Class} {slots : List Slot} (rootless : decl.base = none)
      (effective : decl.effectiveSlots [] = .ok slots) : SlotsOf classes decl slots
  | derived {decl target : Class} {inherited slots : List Slot}
      (inherits : InheritsFrom classes decl target)
      (above : SlotsOf classes target inherited)
      (effective : decl.effectiveSlots inherited = .ok slots) : SlotsOf classes decl slots

variable {classes others : List Class} {decl target : Class} {slots otherSlots : List Slot}

/-- A base means the same among fewer classes, if it is one of them. -/
theorem InheritsFrom.restrict (inherits : InheritsFrom classes decl target)
    (subset : others ⊆ classes) (member : target ∈ others) : InheritsFrom others decl target := by
  rcases inherits with ⟨base, named, denotes⟩
  exact ⟨base, named, denotes.restrict subset subset member⟩

/-- Ancestors give a class one list of slots. -/
theorem SlotsOf.unique (declared : WellDeclared classes) (first : SlotsOf classes decl slots)
    (second : SlotsOf classes decl otherSlots) : slots = otherSlots := by
  induction first generalizing otherSlots with
  | root rootless effective =>
      cases second with
      | root _ again => exact Except.ok.inj (effective.symm.trans again)
      | derived inherits =>
          rcases inherits with ⟨base, named, _⟩
          simp [rootless] at named
  | derived inherits above effective ih =>
      cases second with
      | root rootless =>
          rcases inherits with ⟨base, named, _⟩
          simp [rootless] at named
      | derived otherInherits otherAbove again =>
          obtain rfl := inherits.unique declared otherInherits
          obtain rfl := ih otherAbove
          exact Except.ok.inj (effective.symm.trans again)

/-- Slots are carried over to other classes where every base means the same. -/
theorem SlotsOf.transport {kept : List Class}
    (same : ∀ decl ∈ kept, ∀ target, InheritsFrom classes decl target →
      target ∈ kept ∧ InheritsFrom others decl target)
    (member : decl ∈ kept) (slotsOf : SlotsOf classes decl slots) : SlotsOf others decl slots := by
  induction slotsOf with
  | root rootless effective => exact .root rootless effective
  | @derived decl target inherited slots inherits above effective ih =>
      rcases same decl member target inherits with ⟨targetKept, inheritsThere⟩
      exact .derived inheritsThere (ih targetKept) effective

/-- Linking gives each class the slots of its ancestors. -/
theorem Linked.slotsOf {done : List Class} {known : Class → Option (List Slot)}
    (linked : Linked classes done known)
    (uncontested : ∀ decl ∈ classes, ¬ Contested classes decl) (inside : done ⊆ classes) :
    ∀ decl slots, known decl = some slots → SlotsOf classes decl slots := by
  induction linked with
  | nil => simp
  | @snoc done known last lastSlots _ _ computed ih =>
      rcases List.append_subset.mp inside with ⟨earlier, lastMem⟩
      intro decl slots stored
      by_cases atEnd : decl = last
      · subst atEnd
        obtain rfl : lastSlots = slots := by simpa using stored
        cases computed with
        | root rootless effective => exact .root rootless effective
        | @derived base target inherited named denotes storedTarget effective =>
            have inherits : InheritsFrom classes decl target :=
              ⟨base, named, denotes.widen earlier named (uncontested decl (lastMem (by simp)))⟩
            exact .derived inherits (ih earlier target inherited storedTarget) effective
      · rw [Function.update_of_ne atEnd] at stored
        exact ih earlier decl slots stored

/-! ## What a header shows -/

/-- The texts that a class contributes to a header, in their order. -/
def classTexts (indentUnit : String) (pieces : List Piece) (decl : Class) : List String :=
  ((blocksOf pieces).filter (·.decl = decl)).map fun block =>
    Piece.text indentUnit (.block block)

namespace ClassUnit

variable {unit other : ClassUnit} {options : Options} {text otherText : String}

/-- A unit that has a header displays the slots that ancestors give. -/
theorem exists_displays (accepted : unit.header options = .ok text) :
    WellDeclared unit.classes ∧ ∃ pieces slots, unit.Displays options text pieces slots ∧
      ∀ decl ∈ unit.classes, SlotsOf unit.classes decl (slots decl) := by
  rcases exists_linked_of_header accepted with
    ⟨wellDeclared, uncontested, known, slots, linked, stored, vtables, written⟩
  refine ⟨wellDeclared, _, slots,
    ⟨written, vtables, arranged_unitPieces slots wellDeclared.nodup⟩, ?_⟩
  intro decl member
  exact linked.slotsOf uncontested (List.Subset.refl _) decl _ (stored decl member)

/-- A class contributes its forward declarations, its body and its vtable. -/
theorem Displays.classTexts_eq {pieces : List Piece} {slots : Class → List Slot}
    (displays : unit.Displays options text pieces slots) (member : decl ∈ unit.classes) :
    classTexts options.indentUnit pieces decl =
      [Sections.blockText options.indentUnit 0 decl.forwardBlock,
        Sections.blockText options.indentUnit 0 decl.bodyBlock,
        Sections.blockText options.indentUnit 0 (decl.vtableBlock (slots decl))] := by
  rw [classTexts, displays.arranged.once decl member]
  rfl

/-- Headers in which the bases of `kept` mean the same show these classes alike. -/
theorem displays_agree {kept : List Class} (accepted : unit.header options = .ok text)
    (otherAccepted : other.header options = .ok otherText)
    (inside : kept ⊆ unit.classes) (otherInside : kept ⊆ other.classes)
    (same : ∀ decl ∈ kept, ∀ target, InheritsFrom unit.classes decl target →
      target ∈ kept ∧ InheritsFrom other.classes decl target) :
    ∃ pieces slots otherPieces otherSlots,
      unit.Displays options text pieces slots ∧
      other.Displays options otherText otherPieces otherSlots ∧
      ∀ decl ∈ kept, slots decl = otherSlots decl ∧
        classTexts options.indentUnit pieces decl =
          classTexts options.indentUnit otherPieces decl := by
  rcases exists_displays accepted with ⟨_, pieces, slots, displays, slotsOf⟩
  rcases exists_displays otherAccepted with
    ⟨otherDeclared, otherPieces, otherSlots, otherDisplays, otherSlotsOf⟩
  refine ⟨pieces, slots, otherPieces, otherSlots, displays, otherDisplays, ?_⟩
  intro decl member
  have slotsEq : slots decl = otherSlots decl :=
    ((slotsOf decl (inside member)).transport same member).unique otherDeclared
      (otherSlotsOf decl (otherInside member))
  rw [displays.classTexts_eq (inside member), otherDisplays.classTexts_eq (otherInside member),
    slotsEq]
  exact ⟨rfl, rfl⟩

end ClassUnit

/-- Two accepted orders of the same classes show every class alike: with the same slots, and
with the same forward declarations, body and vtable. -/
theorem ClassUnit.headers_agree_of_perm (first second : ClassUnit) (options : Options)
    {firstText secondText : String} (same : first.classes.Perm second.classes)
    (firstAccepted : first.header options = .ok firstText)
    (secondAccepted : second.header options = .ok secondText) :
    ∃ firstPieces firstSlots secondPieces secondSlots,
      first.Displays options firstText firstPieces firstSlots ∧
      second.Displays options secondText secondPieces secondSlots ∧
      ∀ decl ∈ first.classes, firstSlots decl = secondSlots decl ∧
        classTexts options.indentUnit firstPieces decl =
          classTexts options.indentUnit secondPieces decl := by
  apply displays_agree firstAccepted secondAccepted (List.Subset.refl _) same.subset
  intro decl _ target inherits
  exact ⟨inherits.mem, inherits.restrict same.symm.subset (same.subset inherits.mem)⟩

/-- Classes of three namespaces, each base before the classes that inherit from it. -/
def scatteredUnit : ClassUnit where
  classes :=
    [{ name := "A", path := ⟨["x"]⟩, methods := [{ returnType := "int", name := "size" }] },
      { name := "B", path := ⟨["z"]⟩, base := some "A",
        methods := [{ returnType := "int", name := "size", isOverride := true }] },
      { name := "C", path := ⟨["x"]⟩, base := some "z.B",
        methods := [{ returnType := "bool", name := "isEmpty" }] },
      { name := "D", methods := [{ returnType := "int", name := "size" }] }]

/-- The same classes with the last one first. -/
def rotatedUnit : ClassUnit where
  classes := scatteredUnit.classes.rotate 3

theorem scatteredUnit_agrees_rotatedUnit :
    ∃ firstText secondText firstPieces firstSlots secondPieces secondSlots,
      scatteredUnit.header {} = .ok firstText ∧ rotatedUnit.header {} = .ok secondText ∧
      firstText ≠ secondText ∧
      scatteredUnit.Displays {} firstText firstPieces firstSlots ∧
      rotatedUnit.Displays {} secondText secondPieces secondSlots ∧
      ∀ decl ∈ scatteredUnit.classes, firstSlots decl = secondSlots decl ∧
        classTexts (Options.indentUnit {}) firstPieces decl =
          classTexts (Options.indentUnit {}) secondPieces decl := by
  rcases exists_eq_ok_of_toBool (scatteredUnit.header {}) (by decide +kernel) with
    ⟨firstText, firstAccepted⟩
  rcases exists_eq_ok_of_toBool (rotatedUnit.header {}) (by decide +kernel) with
    ⟨secondText, secondAccepted⟩
  have differ : scatteredUnit.header {} ≠ rotatedUnit.header {} := by decide +kernel
  have same : scatteredUnit.classes.Perm rotatedUnit.classes :=
    (List.rotate_perm scatteredUnit.classes 3).symm
  rcases scatteredUnit.headers_agree_of_perm rotatedUnit {} same firstAccepted secondAccepted with
    ⟨firstPieces, firstSlots, secondPieces, secondSlots, first, second, agree⟩
  refine ⟨firstText, secondText, firstPieces, firstSlots, secondPieces, secondSlots,
    firstAccepted, secondAccepted, ?_, first, second, agree⟩
  rintro rfl
  exact differ (firstAccepted.trans secondAccepted.symm)

/-- Classes that are declared but never linked can be left out. -/
theorem Linked.restrict {declared fewer done : List Class} {known : Class → Option (List Slot)}
    (linked : Linked declared done known) (subset : fewer ⊆ declared) (inside : done ⊆ fewer) :
    Linked fewer done known := by
  induction linked with
  | nil => exact .nil
  | @snoc done known last slots _ fresh computed ih =>
      rcases List.append_subset.mp inside with ⟨earlier, _⟩
      refine .snoc (ih earlier) fresh ?_
      cases computed with
      | root rootless effective => exact .root rootless effective
      | derived named denotes stored effective =>
          exact .derived named (denotes.restrict subset (List.Subset.refl _) denotes.mem) stored
            effective

/-- Linking can be stopped early. -/
theorem Linked.exists_linked_prefix {declared done later : List Class}
    {known : Class → Option (List Slot)} (linked : Linked declared (done ++ later) known) :
    ∃ known, Linked declared done known := by
  induction later using List.reverseRecOn generalizing known with
  | nil => exact ⟨known, by simpa using linked⟩
  | append_singleton later last ih =>
      rw [← List.append_assoc] at linked
      rcases linked_snoc_iff.mp linked with ⟨_, _, _, before, _⟩
      exact ih before

section Appended

variable {earlier later : List Class}

/-- The first classes of a unit where bases stand first are such a unit. -/
theorem BaseFirst.of_append (baseFirst : BaseFirst (earlier ++ later)) : BaseFirst earlier := by
  intro before decl after split base named
  have subset : earlier ⊆ earlier ++ later := List.subset_append_left earlier later
  have whole : earlier ++ later = before ++ decl :: (after ++ later) := by
    rw [split, List.append_assoc, List.cons_append]
  rcases baseFirst before decl (after ++ later) whole base named with
    ⟨target, targetBefore, denotes⟩
  have targetMem : target ∈ earlier := split ▸ List.mem_append_left _ targetBefore
  exact ⟨target, targetBefore, denotes.restrict subset subset targetMem⟩

/-- A base of an earlier class means the same without the later ones. -/
theorem BaseFirst.inheritsFrom_earlier (baseFirst : BaseFirst (earlier ++ later))
    (declared : WellDeclared (earlier ++ later)) (member : decl ∈ earlier)
    (inherits : InheritsFrom (earlier ++ later) decl target) :
    target ∈ earlier ∧ InheritsFrom earlier decl target := by
  have subset : earlier ⊆ earlier ++ later := List.subset_append_left earlier later
  have precedes := baseFirst.idxOf_lt declared (subset member) inherits
  have targetMem : target ∈ earlier := by
    by_contra absent
    rw [List.idxOf_append, List.idxOf_append, if_neg absent, if_pos member] at precedes
    have bound := List.idxOf_lt_length_of_mem member
    omega
  exact ⟨targetMem, inherits.restrict subset targetMem⟩

/-- The first part of an accepted unit is accepted. -/
theorem ClassUnit.exists_header_of_append {options : Options} {text : String}
    (accepted : ClassUnit.header ⟨earlier ++ later⟩ options = .ok text) :
    ∃ earlierText, ClassUnit.header ⟨earlier⟩ options = .ok earlierText := by
  rcases header_eq_ok_iff.mp accepted with ⟨wellDeclared, uncontested, known, linked, _⟩
  have subset : earlier ⊆ earlier ++ later := List.subset_append_left earlier later
  have baseFirst : BaseFirst (earlier ++ later) := linked.baseFirst uncontested
  have earlierDeclared : WellDeclared earlier :=
    ⟨fun decl member => wellDeclared.checked decl (subset member),
      wellDeclared.distinct.sublist ((List.sublist_append_left earlier later).map Class.ref)⟩
  rcases linked.exists_linked_prefix with ⟨fewer, linkedPrefix⟩
  exact ⟨_, header_eq_ok_iff.mpr ⟨earlierDeclared,
    fun _ member => baseFirst.of_append.not_contested member, fewer,
    linkedPrefix.restrict subset (List.Subset.refl _), rfl⟩⟩

end Appended

/-- Appending classes to a unit changes nothing for those that it has: if the longer unit has a
header then so has the shorter one, and both show the classes of the shorter one alike. -/
theorem ClassUnit.headers_agree_of_append (earlier later : List Class) (options : Options)
    {text : String} (accepted : ClassUnit.header ⟨earlier ++ later⟩ options = .ok text) :
    ∃ earlierText, ClassUnit.header ⟨earlier⟩ options = .ok earlierText ∧
      ∃ pieces slots earlierPieces earlierSlots,
        ClassUnit.Displays ⟨earlier ++ later⟩ options text pieces slots ∧
        ClassUnit.Displays ⟨earlier⟩ options earlierText earlierPieces earlierSlots ∧
        ∀ decl ∈ earlier, slots decl = earlierSlots decl ∧
          classTexts options.indentUnit pieces decl =
            classTexts options.indentUnit earlierPieces decl := by
  rcases exists_header_of_append accepted with ⟨earlierText, earlierAccepted⟩
  refine ⟨earlierText, earlierAccepted, ?_⟩
  rcases header_eq_ok_iff.mp accepted with ⟨wellDeclared, uncontested, known, linked, _⟩
  apply displays_agree accepted earlierAccepted (List.subset_append_left earlier later)
    (List.Subset.refl _)
  intro decl member target inherits
  exact (linked.baseFirst uncontested).inheritsFrom_earlier wellDeclared member inherits

/-- The base of `x.B` is `x.A`. -/
def shortClasses : List Class :=
  [{ name := "A", path := ⟨["x"]⟩, methods := [{ returnType := "int", name := "size" }] },
    { name := "B", path := ⟨["x"]⟩, base := some "A",
      methods := [{ returnType := "int", name := "size", isOverride := true }] }]

/-- Another class named `A`, and a class that inherits from it. -/
def appendedClasses : List Class :=
  [{ name := "A", path := ⟨["y"]⟩ }, { name := "C", path := ⟨["y"]⟩, base := some "A" }]

theorem shortClasses_agree_when_appended :
    ∃ text earlierText pieces slots earlierPieces earlierSlots,
      ClassUnit.header ⟨shortClasses ++ appendedClasses⟩ {} = .ok text ∧
      ClassUnit.header ⟨shortClasses⟩ {} = .ok earlierText ∧
      ClassUnit.Displays ⟨shortClasses ++ appendedClasses⟩ {} text pieces slots ∧
      ClassUnit.Displays ⟨shortClasses⟩ {} earlierText earlierPieces earlierSlots ∧
      ∀ decl ∈ shortClasses, slots decl = earlierSlots decl ∧
        classTexts (Options.indentUnit {}) pieces decl =
          classTexts (Options.indentUnit {}) earlierPieces decl := by
  rcases exists_eq_ok_of_toBool (ClassUnit.header ⟨shortClasses ++ appendedClasses⟩ {})
    (by decide +kernel) with ⟨text, accepted⟩
  rcases ClassUnit.headers_agree_of_append shortClasses appendedClasses {} accepted with
    ⟨earlierText, earlierAccepted, pieces, slots, earlierPieces, earlierSlots, rest⟩
  exact ⟨text, earlierText, pieces, slots, earlierPieces, earlierSlots, accepted,
    earlierAccepted, rest⟩

end VtableHeader
