import VtableHeader.Proofs.ClassListing
import VtableHeader.Proofs.Passes

/-!
# Declaring the classes of a unit

Grouping a unit by namespace changes the order of its classes but neither loses nor
repeats one.  The forward declarations of a unit can be written exactly when its
classes are well declared, and afterwards the class table lists them in the order
of the groups, without slots.  Bodies can then always be written.
-/

namespace VtableHeader.Generator

variable {classes : List Class}

theorem flatMap_filter_path_perm {paths : List NamespacePath} (distinct : paths.Nodup) :
    (paths.flatMap fun path => classes.filter (·.path = path)).Perm
      (classes.filter (·.path ∈ paths)) := by
  induction paths with
  | nil => simp
  | cons path rest ih =>
      rcases List.nodup_cons.mp distinct with ⟨fresh, distinct⟩
      have first : (classes.filter (·.path ∈ path :: rest)).filter (·.path = path) =
          classes.filter (·.path = path) := by
        rw [List.filter_filter]
        apply List.filter_congr
        intro decl _
        by_cases same : decl.path = path <;> simp [same]
      have others : (classes.filter (·.path ∈ path :: rest)).filter (fun decl =>
          !decide (decl.path = path)) = classes.filter (·.path ∈ rest) := by
        rw [List.filter_filter]
        apply List.filter_congr
        intro decl _
        by_cases same : decl.path = path
        · simp [same, fresh]
        · simp [same]
      have split := List.filter_append_perm (·.path = path)
        (classes.filter (·.path ∈ path :: rest))
      rw [first, others] at split
      exact ((ih distinct).append_left _).trans split

theorem nodup_eraseDups {α : Type} [DecidableEq α] (items : List α) :
    items.eraseDups.Nodup := by
  -- `eraseDups` filters the tail, so the induction is on the length of the list.
  induction length : items.length using Nat.strongRecOn generalizing items with
  | ind size ih =>
      cases items with
      | nil => simp
      | cons item rest =>
          rw [List.eraseDups_cons, List.nodup_cons]
          have shorter : (rest.filter fun other => !other == item).length < size := by
            have bound := List.length_filter_le (fun other => !other == item) rest
            rw [← length, List.length_cons]
            omega
          refine ⟨?_, ih _ shorter _ rfl⟩
          rw [List.mem_eraseDups]
          simp

/-- Classes by namespace: namespaces in the order of their first class, classes of one
namespace in the order of the unit. -/
def byNamespace (classes : List Class) : List Class :=
  (classes.map (·.path)).eraseDups.flatMap fun path => classes.filter (·.path = path)

theorem groupMembers_groups (classes : List Class) :
    groupMembers (groups classes) = byNamespace classes := by
  simp [groupMembers, groups, byNamespace, List.flatMap_map]

/-- Grouping keeps every class once. -/
theorem groupMembers_groups_perm (classes : List Class) :
    (groupMembers (groups classes)).Perm classes := by
  have all : classes.filter (·.path ∈ (classes.map (·.path)).eraseDups) = classes := by
    rw [List.filter_eq_self]
    intro decl member
    simp only [decide_eq_true_eq]
    exact List.mem_eraseDups.mpr (List.mem_map_of_mem member)
  rw [groupMembers_groups]
  exact (flatMap_filter_path_perm (nodup_eraseDups _)).trans (List.Perm.of_eq all)

theorem byNamespace_perm (classes : List Class) : (byNamespace classes).Perm classes :=
  groupMembers_groups classes ▸ groupMembers_groups_perm classes

/-- The classes of a group live in its namespace. -/
theorem path_eq_of_mem_group {group : NamespacePath × List Class}
    (member : group ∈ groups classes) {decl : Class} (inGroup : decl ∈ group.2) :
    decl.path = group.1 := by
  rcases List.mem_map.mp member with ⟨path, _, rfl⟩
  simpa using (List.mem_filter.mp inGroup).2

theorem mem_of_mem_group {group : NamespacePath × List Class} (member : group ∈ groups classes)
    {decl : Class} (inGroup : decl ∈ group.2) : decl ∈ classes := by
  rcases List.mem_map.mp member with ⟨path, _, rfl⟩
  exact (List.mem_filter.mp inGroup).1

/-- Every group is the group of some class. -/
theorem exists_path_eq_of_group {group : NamespacePath × List Class}
    (member : group ∈ groups classes) : ∃ decl ∈ classes, decl.path = group.1 := by
  rcases List.mem_map.mp member with ⟨path, pathMem, rfl⟩
  exact List.mem_map.mp (List.mem_eraseDups.mp pathMem)

/-- The namespaces of well-declared classes can be entered. -/
theorem check_path_of_group (checked : ∀ decl ∈ classes, decl.check = .ok ())
    {group : NamespacePath × List Class} (member : group ∈ groups classes) :
    group.1.check = .ok () := by
  rcases exists_path_eq_of_group member with ⟨decl, declMem, samePath⟩
  rw [NamespacePath.check, checkIdentifiers_eq_ok_iff, ← samePath]
  exact (Class.namesIdentified_of_check (checked decl declMem)).2

/-- The pass that declares classes. -/
def forwardPass (classes : List Class) : Pass Unit classes where
  emit := declareForward
  reached := fun _ => True
  allowed := fun table decl =>
    decl.check = .ok () ∧ table.contains decl.qualifiedName = false
  record := ClassTable.insert
  place := .classDecls
  block := Class.forwardBlock
  answer := fun _ => ()
  reached_record := fun _ _ _ _ _ => trivial
  emit_eq_ok_iff := by
    intro decl _ generator next result _
    rw [perform_declareForward_eq_ok_iff, and_assoc]
    simp [Draft.writeForward]

theorem recordAll_forwardPass (done members : List Class) :
    (forwardPass classes).recordAll (.listing done fun _ => none) members =
      .listing (done ++ members) fun _ => none := by
  induction members generalizing done with
  | nil => simp [Pass.recordAll]
  | cons decl rest ih =>
      change (forwardPass classes).recordAll
        ((ClassTable.listing done fun _ => none).insert decl) rest = _
      rw [ClassTable.insert_listing rfl, ih]
      simp

/-- Classes can be declared when they pass their checks and their dotted names are new. -/
theorem forwardPass_admits_iff {table : ClassTable} {members : List Class} :
    (forwardPass classes).Admits table members ↔
      (∀ decl ∈ members, decl.check = .ok ()) ∧ (members.map Class.qualifiedName).Nodup ∧
        ∀ decl ∈ members, table.contains decl.qualifiedName = false := by
  induction members generalizing table with
  | nil => simp [Pass.Admits]
  | cons decl rest ih =>
      have new : ∀ key, (table.insert decl).contains key = false ↔
          table.contains key = false ∧ decl.qualifiedName ≠ key := by
        intro key
        rw [← Bool.not_eq_true, ClassTable.contains_insert_iff, not_or, Bool.not_eq_true]
      change (decl.check = .ok () ∧ table.contains decl.qualifiedName = false) ∧
        (forwardPass classes).Admits (table.insert decl) rest ↔ _
      simp only [ih, new, List.forall_mem_cons, List.map_cons, List.nodup_cons, List.mem_map]
      constructor
      · rintro ⟨⟨checked, absent⟩, restChecked, distinct, restNew⟩
        refine ⟨⟨checked, restChecked⟩, ⟨?_, distinct⟩, absent, ?_⟩
        · rintro ⟨other, otherMem, same⟩
          exact (restNew other otherMem).2 same.symm
        · intro other otherMem
          exact (restNew other otherMem).1
      · rintro ⟨⟨checked, restChecked⟩, ⟨fresh, distinct⟩, absent, restNew⟩
        refine ⟨⟨checked, absent⟩, restChecked, distinct, ?_⟩
        intro other otherMem
        exact ⟨restNew other otherMem, fun same => fresh ⟨other, otherMem, same.symm⟩⟩

/-- Checked classes are well declared when no dotted name occurs twice. -/
theorem wellDeclared_iff :
    WellDeclared classes ↔
      (∀ decl ∈ classes, decl.check = .ok ()) ∧ (classes.map Class.qualifiedName).Nodup := by
  constructor
  · intro declared
    exact ⟨declared.checked, declared.nodup_qualifiedName⟩
  · rintro ⟨checked, distinct⟩
    refine ⟨checked, ?_⟩
    apply List.Nodup.map_on _ (List.Nodup.of_map _ distinct)
    intro first firstMem second secondMem same
    apply List.inj_on_of_nodup_map distinct firstMem secondMem
    exact (Class.qualifiedName_inj (Class.namesIdentified_of_check (checked first firstMem))
      (Class.namesIdentified_of_check (checked second secondMem))).mpr same

/-- The classes of a unit can be declared exactly when they are well declared. -/
theorem perform_forwards_eq_ok_iff {generator next : Generator}
    (fresh : generator.table = {}) :
    generator.perform (emitGroups declareForward (groups classes)) = (.ok (), next) ↔
      WellDeclared classes ∧
        next = { generator with
          draft := Draft.writeGroups .classDecls Class.forwardBlock (groups classes)
            generator.draft
          table := .listing (groupMembers (groups classes)) fun _ => none } := by
  have same := groupMembers_groups_perm classes
  have empty : generator.table = .listing [] fun _ => none := fresh
  change generator.perform (emitGroups (forwardPass classes).emit (groups classes)) = _ ↔ _
  rw [(forwardPass classes).perform_emitGroups_eq_ok_iff same.subset trivial, empty,
    forwardPass_admits_iff, recordAll_forwardPass, List.nil_append, wellDeclared_iff,
    ← (same.map Class.qualifiedName).nodup_iff]
  constructor
  · rintro ⟨_, ⟨checked, distinct, _⟩, result⟩
    exact ⟨⟨fun decl member => checked decl (same.mem_iff.mpr member), distinct⟩, result⟩
  · rintro ⟨⟨checked, distinct⟩, result⟩
    refine ⟨fun group member => check_path_of_group checked member, ⟨?_, distinct, ?_⟩, result⟩
    · intro decl member
      exact checked decl (same.mem_iff.mp member)
    · intro decl _
      rfl

/-- The pass that writes bodies. -/
def bodyPass (classes : List Class) : Pass Unit classes where
  emit := declareBody
  reached := fun _ => True
  allowed := fun table decl => table.contains decl.qualifiedName = true
  record := fun table _ => table
  place := .classDecls
  block := Class.bodyBlock
  answer := fun _ => ()
  reached_record := fun _ _ _ _ _ => trivial
  emit_eq_ok_iff := by
    intro decl _ generator next result _
    rw [perform_declareBody_eq_ok_iff]
    simp [Draft.writeBody]

end VtableHeader.Generator
