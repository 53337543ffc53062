import VtableHeader.Proofs.Emission
import VtableHeader.Proofs.FirstFailure

/-!
# Which error is reported

A unit may be wrong in many ways at once, and one error is reported.  While its classes are
declared, only faults of single classes and repeated classes are found, and whatever else is wrong
does not matter.  If all classes can be declared, they are linked in the order of the unit, and the
first class that cannot be linked is reported: for its base, or else for its first method with a
wrong mark.  If all can be linked, what remains is a contested base, and the first vtable that has
one is reported.
-/

namespace VtableHeader

open Generator (byNamespace)

/-- Errors for a class that cannot be declared. -/
def GenError.isDeclarationFault : GenError → Bool
  | .invalidIdentifier .. | .emptyTypeName .. | .duplicateMember .. | .duplicateClass .. => true
  | _ => false

/-- What can be reported while the classes of a unit are declared: a namespace that is refused, a
class that is refused in a namespace that is not, or a class that is declared again. -/
inductive DeclarationFault (classes : List Class) : GenError → Prop where
  | refusedNamespace {decl : Class} {error : GenError} (member : decl ∈ classes)
      (refused : decl.path.check = .error error) : DeclarationFault classes error
  | refusedClass {decl : Class} {error : GenError} (member : decl ∈ classes)
      (entered : decl.path.check = .ok ()) (refused : decl.check = .error error) :
      DeclarationFault classes error
  | repeatedClass {decl : Class} (member : decl ∈ classes)
      (again : 2 ≤ (classes.map Class.ref).count decl.ref) :
      DeclarationFault classes (.duplicateClass decl.qualifiedName)

/-- Why a class cannot be linked with a table: its base is not resolved, or else its first method
whose mark disagrees with the names of the inherited slots. -/
inductive ClassTable.LinkFault (table : ClassTable) (decl : Class) : GenError → Prop where
  | base {base : String} {error : GenError} (named : decl.base = some base)
      (unresolved : table.resolveBase decl base = .error error) : LinkFault table decl error
  | dangling {inherited : List Slot} {before after : List Method} {method : Method}
      (inherits : table.inheritedSlots decl = .ok inherited)
      (split : decl.methods = before ++ method :: after)
      (agree : ∀ earlier ∈ before,
        (earlier.isOverride = true ↔ earlier.name ∈ slotNames inherited))
      (marked : method.isOverride = true) (absent : method.name ∉ slotNames inherited) :
      LinkFault table decl (.danglingOverride decl.qualifiedName method.name)
  | unmarked {inherited : List Slot} {before after : List Method} {method : Method}
      (inherits : table.inheritedSlots decl = .ok inherited)
      (split : decl.methods = before ++ method :: after)
      (agree : ∀ earlier ∈ before,
        (earlier.isOverride = true ↔ earlier.name ∈ slotNames inherited))
      (unmarked : method.isOverride = false) (present : method.name ∈ slotNames inherited) :
      LinkFault table decl (.unmarkedOverride decl.qualifiedName method.name)

/-- The first class of a unit that cannot be linked: all classes are declared, and those before it
are linked. -/
def FirstLinkFault (classes : List Class) (error : GenError) : Prop :=
  ∃ before decl after known, classes = before ++ decl :: after ∧ Linked classes before known ∧
    (ClassTable.listing (byNamespace classes) known).LinkFault decl error

/-- The first class with a contested base, in the order of the vtables.  The error names all
classes that bear the name. -/
def FirstContested (classes : List Class) (error : GenError) : Prop :=
  ∃ before decl after base, byNamespace classes = before ++ decl :: after ∧
    (∀ earlier ∈ before, ¬ Contested classes earlier) ∧ Contested classes decl ∧
    decl.base = some base ∧
    error = .ambiguousBase decl.qualifiedName base
      (((byNamespace classes).filter (·.name == base)).map Class.qualifiedName)

/-- Where the error of a unit comes from. -/
inductive Reported (classes : List Class) (error : GenError) : Prop where
  | declaring (ill : ¬ WellDeclared classes) (fault : DeclarationFault classes error)
  | linking (wellDeclared : WellDeclared classes) (fault : FirstLinkFault classes error)
  | contested (wellDeclared : WellDeclared classes) (linked : ∃ known, Linked classes classes known)
      (fault : FirstContested classes error)

variable {classes : List Class} {decl : Class} {error : GenError}
  {known : Class → Option (List Slot)}

theorem Class.checkOverride_eq_error_iff {inherited : List Slot} {method : Method} :
    decl.checkOverride inherited method = .error error ↔
      (method.isOverride = true ∧ method.name ∉ slotNames inherited ∧
        error = .danglingOverride decl.qualifiedName method.name) ∨
      (method.isOverride = false ∧ method.name ∈ slotNames inherited ∧
        error = .unmarkedOverride decl.qualifiedName method.name) := by
  have named : inherited.any (·.method.name == method.name) = true ↔
      method.name ∈ slotNames inherited := by
    simp [slotNames]
  rw [← named]
  unfold checkOverride
  cases method.isOverride <;>
    cases inherited.any (·.method.name == method.name) <;> simp [eq_comm]

/-- Slots cannot be computed for the first method with a wrong mark. -/
theorem Class.effectiveSlots_eq_error_iff {inherited : List Slot} :
    decl.effectiveSlots inherited = .error error ↔
      ∃ before method after, decl.methods = before ++ method :: after ∧
        (∀ earlier ∈ before,
          (earlier.isOverride = true ↔ earlier.name ∈ slotNames inherited)) ∧
        decl.checkOverride inherited method = .error error := by
  have written : ∀ slots : List Slot, (pure slots : Except GenError (List Slot)) ≠ .error error :=
    nofun
  unfold effectiveSlots
  rw [check_bind_eq_error_iff, forM_eq_error_iff]
  simp only [checkOverride_eq_ok_iff, written, and_false, or_false]

namespace ClassTable

variable {table : ClassTable}

/-- The fault of a class is the error for which the table gives it no slots. -/
theorem slotsFor_eq_error_iff :
    table.slotsFor decl = .error error ↔ table.LinkFault decl error := by
  unfold slotsFor
  constructor
  · cases inherits : table.inheritedSlots decl with
    | error other =>
        intro failed
        cases failed
        unfold inheritedSlots at inherits
        cases named : decl.base with
        | none => simp [named] at inherits
        | some base => exact .base named (by simpa [named] using inherits)
    | ok inherited =>
        intro failed
        rcases Class.effectiveSlots_eq_error_iff.mp failed with
          ⟨before, method, after, split, agree, wrong⟩
        rcases Class.checkOverride_eq_error_iff.mp wrong with
          ⟨marked, absent, rfl⟩ | ⟨unmarked, present, rfl⟩
        · exact .dangling inherits split agree marked absent
        · exact .unmarked inherits split agree unmarked present
  · have later : ∀ {inherited : List Slot}, table.inheritedSlots decl = .ok inherited →
        decl.effectiveSlots inherited = .error error →
        (table.inheritedSlots decl >>= decl.effectiveSlots) = .error error := by
      intro inherited inherits failed
      rw [inherits]
      exact failed
    intro fault
    cases fault with
    | base named unresolved =>
        rw [inheritedSlots, named]
        simp only [unresolved]
        rfl
    | dangling inherits split agree marked absent =>
        exact later inherits (Class.effectiveSlots_eq_error_iff.mpr ⟨_, _, _, split, agree,
          Class.checkOverride_eq_error_iff.mpr (.inl ⟨marked, absent, rfl⟩)⟩)
    | unmarked inherits split agree unmarked present =>
        exact later inherits (Class.effectiveSlots_eq_error_iff.mpr ⟨_, _, _, split, agree,
          Class.checkOverride_eq_error_iff.mpr (.inr ⟨unmarked, present, rfl⟩)⟩)

end ClassTable

namespace Generator

variable {generator : Generator}

theorem perform_declareForward_eq_error_iff :
    (generator.perform (declareForward decl)).1 = .error error ↔
      decl.check = .error error ∨
        decl.check = .ok () ∧ generator.table.contains decl.qualifiedName = true ∧
          error = .duplicateClass decl.qualifiedName := by
  have new : (generator.perform (requireNew decl >>= fun _ => do
      onDraft (·.writeForward decl)
      onTable (·.insert decl))).1 = .error error ↔
        generator.table.contains decl.qualifiedName = true ∧
          error = .duplicateClass decl.qualifiedName := by
    rw [requireNew, bind_assoc, perform_current_bind, perform_require_bind_eq_error_iff,
      refused_eq_error_iff]
    simp
  rw [declareForward, perform_require_bind_eq_error_iff, new]
  constructor
  · rintro (refused | ⟨⟨⟩, checked, taken⟩)
    · exact .inl refused
    · exact .inr ⟨checked, taken⟩
  · rintro (refused | ⟨checked, taken⟩)
    · exact .inl refused
    · exact .inr ⟨(), checked, taken⟩

/-- A declared class cannot be linked when the table gives it no slots. -/
theorem perform_link_eq_error_iff
    (present : generator.table.contains decl.qualifiedName = true) :
    (generator.perform (link decl)).1 = .error error ↔
      generator.table.LinkFault decl error := by
  have stored : ∀ slots, (generator.perform (storeSlots decl slots)).1 ≠ .error error := by
    intro slots failed
    rw [perform_storeSlots_eq_ok_iff.mpr ⟨present, rfl⟩] at failed
    cases failed
  rw [← ClassTable.slotsFor_eq_error_iff, ClassTable.slotsFor, link, perform_current_bind,
    perform_require_bind_eq_error_iff]
  simp only [perform_require_bind_eq_error_iff, stored, and_false, exists_false, or_false]
  cases generator.table.inheritedSlots decl with
  | error other => simp [bind, Except.bind]
  | ok inherited => simp [bind, Except.bind]

/-! ## Errors of the passes -/

/-- What stops the declarations is a fault of one class, or a class that is declared again. -/
theorem declarationFault_of_forwards (fresh : generator.table = {})
    (failed : (generator.perform (emitGroups declareForward (groups classes))).1 = .error error) :
    DeclarationFault classes error := by
  have same := groupMembers_groups_perm classes
  rcases exists_of_perform_emitGroups_eq_error failed with
    ⟨group, member, refused⟩ |
    ⟨earlier, decl, after, middle, split, ⟨group, member, inGroup, entered⟩, ran, failed⟩
  · rcases exists_path_eq_of_group member with ⟨decl, declMem, samePath⟩
    exact .refusedNamespace declMem (samePath ▸ refused)
  · rw [split] at same
    have declMem : decl ∈ classes := same.subset (by simp)
    have earlierMem : groupMembers earlier ⊆ classes := fun other otherMem =>
      same.subset (List.mem_append_left _ otherMem)
    rcases ((forwardPass classes).perform_emitGroups_eq_ok_iff earlierMem trivial).mp ran with
      ⟨_, admits, rfl⟩
    have empty : generator.table = .listing [] fun _ => none := fresh
    simp only [perform_declareForward_eq_error_iff, empty, recordAll_forwardPass,
      List.nil_append] at failed
    rcases failed with refused | ⟨checked, taken, rfl⟩
    · exact .refusedClass declMem (path_eq_of_mem_group member inGroup ▸ entered) refused
    · -- The dotted name is that of an earlier class, which is then declared twice.
      rcases List.mem_map.mp (ClassTable.contains_listing_iff.mp taken) with
        ⟨other, otherMem, sameName⟩
      have otherChecked := (forwardPass_admits_iff.mp admits).1 other otherMem
      have sameRef : other.ref = decl.ref :=
        (Class.qualifiedName_inj (Class.namesIdentified_of_check otherChecked)
          (Class.namesIdentified_of_check checked)).mp sameName
      have once : 0 < ((groupMembers earlier).map Class.ref).count decl.ref :=
        List.count_pos_iff.mpr (sameRef ▸ List.mem_map_of_mem otherMem)
      refine .repeatedClass declMem ?_
      rw [← (same.map Class.ref).count_eq, List.map_append, List.map_cons, List.count_append,
        List.count_cons_self]
      omega

/-- What stops the linking is the first class that cannot be linked. -/
theorem perform_links_eq_error_iff (wellDeclared : WellDeclared classes)
    (table : generator.table = .listing (byNamespace classes) fun _ => none) :
    (generator.perform (classes.forM link)).1 = .error error ↔ FirstLinkFault classes error := by
  have same := byNamespace_perm classes
  have present : ∀ {known : Class → Option (List Slot)} {before after : List Class} {decl : Class},
      classes = before ++ decl :: after →
      (ClassTable.listing (byNamespace classes) known).contains decl.qualifiedName = true := by
    intro known before after decl split
    exact ClassTable.contains_listing (same.mem_iff.mpr (by simp [split]))
  rw [perform_forM_eq_error_iff]
  constructor
  · rintro ⟨before, decl, after, middle, split, ran, failed⟩
    rcases (perform_links_eq_ok_iff wellDeclared same ⟨_, split.symm⟩ table).mp ran with
      ⟨known, linked, rfl⟩
    exact ⟨before, decl, after, known, split, linked,
      (perform_link_eq_error_iff (present split)).mp failed⟩
  · rintro ⟨before, decl, after, known, split, linked, fault⟩
    refine ⟨before, decl, after, _, split,
      (perform_links_eq_ok_iff wellDeclared same ⟨_, split.symm⟩ table).mpr
        ⟨known, linked, rfl⟩, ?_⟩
    exact (perform_link_eq_error_iff (present split)).mpr fault

theorem perform_discard_eq_error_iff {α : Type} {action : Action α} :
    (generator.perform (discard action)).1 = .error error ↔
      (generator.perform action).1 = .error error := by
  rw [discard_eq_map, perform_map]
  cases (generator.perform action).1 <;> simp [Except.map]

/-- What stops the vtables is the first contested base. -/
theorem firstContested_of_vtables (wellDeclared : WellDeclared classes)
    (linked : Linked classes classes known)
    (table : generator.table = .listing (byNamespace classes) known)
    (failed : (generator.perform
      (emitGroups (fun decl => discard (declareVtable decl)) (groups classes))).1 =
        .error error) :
    FirstContested classes error := by
  have same := byNamespace_perm classes
  rcases exists_of_perform_emitGroups_eq_error failed with
    ⟨group, member, refused⟩ | ⟨earlier, decl, after, middle, split, _, ran, failed⟩
  · rw [check_path_of_group wellDeclared.checked member] at refused
    cases refused
  · rw [groupMembers_groups] at split
    have declMem : decl ∈ classes := same.subset (by simp [split])
    have earlierMem : groupMembers earlier ⊆ classes := fun other otherMem =>
      same.subset (split ▸ List.mem_append_left _ otherMem)
    let pass := vtablePass wellDeclared same linked
    have keeps : ∀ table decl, pass.record table decl = table := fun _ _ => rfl
    rw [emitGroups_discard_eq, perform_discard_eq_ok_iff] at ran
    rcases ran with ⟨answers, ran⟩
    rcases (pass.perform_collectGroups_eq_ok_iff earlierMem table).mp ran with
      ⟨_, admits, _, result⟩
    have uncontested := (Pass.admits_iff_of_keeps pass keeps).mp admits
    have reached : middle.table = .listing (byNamespace classes) known := by
      rw [result]
      exact (Pass.recordAll_of_keeps pass keeps).trans table
    rw [perform_discard_eq_error_iff] at failed
    have contested : Contested classes decl := by
      by_contra free
      rw [(perform_declareVtable_listing_eq_ok_iff wellDeclared same linked reached
        declMem).mpr ⟨free, rfl, rfl⟩] at failed
      cases failed
    rcases perform_declareVtable_of_contested wellDeclared same linked reached declMem
      contested with ⟨base, named, refused⟩
    rw [refused] at failed
    exact ⟨groupMembers earlier, decl, after, base, split, uncontested, contested, named,
      (Except.error.inj failed).symm⟩

section Emission

variable {unit : ClassUnit}

/-- A run over a unit stops in one of its passes; it is never stopped by a body. -/
theorem reported_of_emitUnit (fresh : generator.table = {})
    (failed : (generator.perform (emitUnit unit)).1 = .error error) :
    Reported unit.classes error := by
  have same := groupMembers_groups_perm unit.classes
  rw [emitUnit, perform_then_eq_error_iff] at failed
  rcases failed with forwards | ⟨_, forwards, failed⟩
  · refine .declaring ?_ (declarationFault_of_forwards fresh forwards)
    intro wellDeclared
    rw [(perform_forwards_eq_ok_iff fresh).mpr ⟨wellDeclared, rfl⟩] at forwards
    cases forwards
  rcases (perform_forwards_eq_ok_iff fresh).mp forwards with ⟨wellDeclared, rfl⟩
  rcases perform_then_eq_error_iff.mp failed with links | ⟨_, links, failed⟩
  · exact .linking wellDeclared ((perform_links_eq_error_iff wellDeclared
      (by rw [groupMembers_groups])).mp links)
  rcases (perform_links_eq_ok_iff wellDeclared same List.prefix_rfl rfl).mp links with
    ⟨known, linked, rfl⟩
  rcases perform_then_eq_error_iff.mp failed with bodies | ⟨_, bodies, vtables⟩
  · rw [(perform_bodies_eq_ok_iff wellDeclared same rfl).mpr rfl] at bodies
    cases bodies
  obtain rfl := (perform_bodies_eq_ok_iff wellDeclared same rfl).mp bodies
  exact .contested wellDeclared ⟨known, linked⟩
    (firstContested_of_vtables wellDeclared linked (by rw [groupMembers_groups]) vtables)

/-- A class that cannot be linked stops the run. -/
theorem emitUnit_of_firstLinkFault (fresh : generator.table = {})
    (wellDeclared : WellDeclared unit.classes) (fault : FirstLinkFault unit.classes error) :
    (generator.perform (emitUnit unit)).1 = .error error := by
  rw [emitUnit, perform_then_eq_error_iff]
  refine .inr ⟨_, (perform_forwards_eq_ok_iff fresh).mpr ⟨wellDeclared, rfl⟩, ?_⟩
  rw [perform_then_eq_error_iff]
  exact .inl ((perform_links_eq_error_iff wellDeclared (by rw [groupMembers_groups])).mpr fault)

end Emission

end Generator

/-! ## Kinds of errors -/

theorem DeclarationFault.isDeclarationFault (fault : DeclarationFault classes error) :
    error.isDeclarationFault = true := by
  cases fault with
  | refusedNamespace _ refused =>
      rcases exists_of_checkIdentifiers_eq_error refused with ⟨segment, _, _, rfl⟩
      rfl
  | refusedClass _ _ refused =>
      cases Class.misdeclares_of_check_eq_error refused <;> rfl
  | repeatedClass => rfl

/-- A base is not resolved because no class with slots bears its name, or because several do and
none of them in the first place where it is looked up. -/
theorem ClassTable.cases_of_resolveBase_eq_error {table : ClassTable} {base : String}
    (unresolved : table.resolveBase decl base = .error error) :
    error = .baseNotEmitted decl.qualifiedName base ∧
        (∀ entry, table.find? (localKey decl base) = some entry → entry.slots = none) ∧
        (table.find? (localKey decl base) = none →
          isDotted base = true ∨ table.candidates base = []) ∨
      error = .ambiguousBase decl.qualifiedName base ((table.candidates base).map Prod.fst) ∧
        table.find? (localKey decl base) = none ∧ isDotted base = false ∧
        2 ≤ (table.candidates base).length := by
  unfold resolveBase at unresolved
  cases found : table.find? (localKey decl base) with
  | some entry =>
      cases slots : entry.slots <;> simp_all
  | none =>
      cases shape : isDotted base with
      | true => simp_all
      | false =>
          rcases several : table.candidates base with _ | ⟨first, _ | ⟨second, rest⟩⟩ <;>
            simp_all

/-- Every class of a unit is declared before its slots are stored or its body is written. -/
theorem Reported.ne_bodyBeforeForward (reported : Reported classes error) (className : String) :
    error ≠ .bodyBeforeForward className := by
  rintro rfl
  cases reported with
  | declaring _ fault => cases fault.isDeclarationFault
  | linking _ fault =>
      rcases fault with ⟨_, decl, _, known, _, _, fault⟩
      cases fault with
      | base named unresolved =>
          rcases ClassTable.cases_of_resolveBase_eq_error unresolved with
            ⟨impossible, _⟩ | ⟨impossible, _⟩ <;> cases impossible
  | contested _ _ fault =>
      rcases fault with ⟨_, _, _, _, _, _, _, _, impossible⟩
      cases impossible

namespace ClassUnit

variable {unit : ClassUnit} {options : Options}

theorem header_eq_error_iff :
    unit.header options = .error error ↔
      ((Generator.start options).perform (Generator.emitUnit unit)).1 = .error error := by
  rw [header, Generator.generate]
  rcases (Generator.start options).perform (Generator.emitUnit unit) with ⟨result | answer, next⟩
  · simp
  · simp

/-- The error of a unit comes from its declarations, its links or its vtables. -/
theorem reported_of_header (rejected : unit.header options = .error error) :
    Reported unit.classes error :=
  Generator.reported_of_emitUnit rfl (header_eq_error_iff.mp rejected)

/-- A class that cannot be linked is reported before any vtable. -/
theorem header_of_firstLinkFault (wellDeclared : WellDeclared unit.classes)
    (fault : FirstLinkFault unit.classes error) : unit.header options = .error error :=
  header_eq_error_iff.mpr (Generator.emitUnit_of_firstLinkFault rfl wellDeclared fault)

/-- Which error is reported for a unit.  Faults of single classes and repeated classes come before
everything else.  Without them it is the error of the first class that cannot be linked, and if
there is none, a contested base.  No body is ever found to come too early. -/
theorem reported_error (unit : ClassUnit) (options : Options) {error : GenError}
    (rejected : unit.header options = .error error) :
    ((∃ decl ∈ unit.classes, decl.check ≠ .ok ()) ∨ ¬ (unit.classes.map Class.ref).Nodup →
      error.isDeclarationFault = true) ∧
    ((∀ decl ∈ unit.classes, decl.check = .ok ()) → (unit.classes.map Class.ref).Nodup →
      (∀ fault, FirstLinkFault unit.classes fault → error = fault) ∧
      ((∀ fault, ¬ FirstLinkFault unit.classes fault) → FirstContested unit.classes error)) ∧
    ∀ className, error ≠ .bodyBeforeForward className := by
  have reported := reported_of_header rejected
  refine ⟨?_, ?_, ?_⟩
  · intro wrong
    have ill : ¬ WellDeclared unit.classes := by
      rintro ⟨checked, distinct⟩
      rcases wrong with ⟨decl, member, refused⟩ | repeated
      · exact refused (checked decl member)
      · exact repeated distinct
    cases reported with
    | declaring _ fault => exact fault.isDeclarationFault
    | linking wellDeclared => exact absurd wellDeclared ill
    | contested wellDeclared => exact absurd wellDeclared ill
  · intro checked distinct
    have wellDeclared : WellDeclared unit.classes := ⟨checked, distinct⟩
    constructor
    · intro fault first
      have again : unit.header options = .error fault := header_of_firstLinkFault wellDeclared first
      exact Except.error.inj (rejected.symm.trans again)
    · intro none
      cases reported with
      | declaring ill => exact absurd wellDeclared ill
      | linking _ fault => exact absurd fault (none error)
      | contested _ _ fault => exact fault
  · exact reported.ne_bodyBeforeForward

end ClassUnit

/-- Several faults at once: `z.B` has a contested base, `w.C` a base that does not exist and an
override of nothing, and `v.D` an override without a mark. -/
def faultyUnit : ClassUnit where
  classes :=
    [{ name := "A", path := ⟨["x"]⟩, methods := [{ returnType := "int", name := "size" }] },
      { name := "B", path := ⟨["z"]⟩, base := some "A" },
      { name := "A", path := ⟨["y"]⟩ },
      { name := "C", path := ⟨["w"]⟩, base := some "x.Z",
        methods := [{ returnType := "int", name := "gone", isOverride := true }] },
      { name := "D", path := ⟨["v"]⟩, base := some "x.A",
        methods := [{ returnType := "int", name := "size" }] }]

theorem faultyUnit_reports_first_link :
    faultyUnit.header {} = .error (.baseNotEmitted "w.C" "x.Z") ∧
      FirstLinkFault faultyUnit.classes (.baseNotEmitted "w.C" "x.Z") := by
  have rejected : faultyUnit.header {} = .error (.baseNotEmitted "w.C" "x.Z") := by decide +kernel
  have linking := (faultyUnit.reported_error {} rejected).2.1 (by decide +kernel) (by decide)
  refine ⟨rejected, ?_⟩
  by_contra other
  have none : ∀ fault, ¬ FirstLinkFault faultyUnit.classes fault := by
    intro fault first
    exact other (linking.1 fault first ▸ first)
  rcases linking.2 none with ⟨_, _, _, _, _, _, _, _, impossible⟩
  cases impossible

end VtableHeader
