import VtableHeader.Proofs.Success

/-!
# Passes over the groups of a unit

A pass goes through all classes of a unit, group by group, and does the same with
each of them: it appends one block of text and may enter something in the class
table.  What one class needs and does is stated once in `Pass`; a pass over any
groups then succeeds exactly when each class is allowed when its turn comes, and
what it leaves behind is known.

Emission drops what the step for a class answers.  To speak about the slots that are
answered for each vtable, `collectGroups` runs the same steps and keeps the answers.
-/

namespace VtableHeader

/-- The classes of groups in the order in which they are emitted. -/
def groupMembers (groups : List (NamespacePath × List Class)) : List Class :=
  groups.flatMap (·.2)

namespace Draft

/-- Append a block for each class. -/
def writeBlocks (place : Section) (block : Class → List Line) : List Class → Draft → Draft
  | [], draft => draft
  | decl :: rest, draft =>
      writeBlocks place block rest (draft.onSections (·.block place (block decl)))

/-- Append the blocks of each group inside its namespace. -/
def writeGroups (place : Section) (block : Class → List Line) :
    List (NamespacePath × List Class) → Draft → Draft
  | [], draft => draft
  | (path, classes) :: rest, draft =>
      writeGroups place block rest
        (writeBlocks place block classes (draft.flush.movedTo path.segments))

end Draft

namespace Generator

/-- Do a step for each class and answer what it answers. -/
def collect {α : Type} (emit : Class → Action α) : List Class → Action (List (Class × α))
  | [] => pure []
  | decl :: rest => do
      let answer ← emit decl
      let answers ← collect emit rest
      return (decl, answer) :: answers

/-- Do a step for the classes of all groups, each inside its namespace, and answer what
it answers. -/
def collectGroups {α : Type} (emit : Class → Action α) :
    List (NamespacePath × List Class) → Action (List (Class × α))
  | [] => pure []
  | (path, classes) :: rest => do
      onDraft Draft.flush
      enterNamespace path
      let first ← collect emit classes
      let others ← collectGroups emit rest
      return first ++ others

/-- Emit all classes of a unit, and answer the slots of each in the order of the
vtables. -/
def emitVtables (unit : ClassUnit) : Action (List (Class × List Slot)) := do
  let groups := groups unit.classes
  emitGroups declareForward groups
  unit.classes.forM link
  emitGroups declareBody groups
  collectGroups declareVtable groups

section Discard

variable {α : Type}

theorem discard_eq_map (action : Action α) :
    discard action = (fun _ => ()) <$> action := by
  unfold discard
  rw [map_const]
  rfl

theorem discard_unit (action : Action Unit) : discard action = action := by
  rw [discard_eq_map]
  exact id_map action

theorem forM_discard_eq (emit : Class → Action α) (classes : List Class) :
    classes.forM (fun decl => discard (emit decl)) = discard (collect emit classes) := by
  induction classes with
  | nil => simp [collect, discard_eq_map]
  | cons decl rest ih =>
      change (discard (emit decl) >>= fun _ => rest.forM fun decl => discard (emit decl)) = _
      rw [ih]
      simp [collect, discard_eq_map]

/-- Emission is collection without the answers. -/
theorem emitGroups_discard_eq (emit : Class → Action α)
    (groups : List (NamespacePath × List Class)) :
    emitGroups (fun decl => discard (emit decl)) groups = discard (collectGroups emit groups) := by
  induction groups with
  | nil => simp [emitGroups, collectGroups, discard_eq_map]
  | cons group rest ih =>
      change (emitGroup (fun decl => discard (emit decl)) group >>= fun _ =>
        emitGroups (fun decl => discard (emit decl)) rest) = _
      rw [ih, emitGroup, forM_discard_eq]
      simp [collectGroups, discard_eq_map]

theorem emitGroups_unit_eq (emit : Class → Action Unit)
    (groups : List (NamespacePath × List Class)) :
    emitGroups emit groups = discard (collectGroups emit groups) := by
  rw [← emitGroups_discard_eq]
  simp only [discard_unit]

theorem emitUnit_eq_discard (unit : ClassUnit) :
    emitUnit unit = discard (emitVtables unit) := by
  simp only [emitUnit, emitVtables, emitGroups_discard_eq]
  simp [discard_eq_map]

theorem perform_discard_eq_ok_iff {generator next : Generator} {action : Action α} :
    generator.perform (discard action) = (.ok (), next) ↔
      ∃ answer, generator.perform action = (.ok answer, next) := by
  rw [discard_eq_map, perform_map]
  rcases generator.perform action with ⟨result | answer, state⟩ <;> simp [Except.map]

end Discard

/-- A step for each of `classes`: which classes a table allows, what it enters there,
what it appends to the draft and what it answers.  The step is described for the
tables that are `reached` when the pass runs. -/
structure Pass (α : Type) (classes : List Class) where
  emit : Class → Action α
  reached : ClassTable → Prop
  allowed : ClassTable → Class → Prop
  record : ClassTable → Class → ClassTable
  place : Section
  block : Class → List Line
  answer : Class → α
  reached_record : ∀ decl ∈ classes, ∀ {table : ClassTable}, reached table →
    allowed table decl → reached (record table decl)
  emit_eq_ok_iff : ∀ decl ∈ classes, ∀ {generator next : Generator} {result : α},
    reached generator.table →
      (generator.perform (emit decl) = (.ok result, next) ↔
        allowed generator.table decl ∧ result = answer decl ∧
          next = { generator with
            draft := generator.draft.onSections (·.block place (block decl))
            table := record generator.table decl })

namespace Pass

variable {α : Type} {classes : List Class} (pass : Pass α classes)

/-- Every class of a list is allowed when its turn comes. -/
def Admits : ClassTable → List Class → Prop
  | _, [] => True
  | table, decl :: rest => pass.allowed table decl ∧ Admits (pass.record table decl) rest

/-- The table after a list of classes. -/
def recordAll (table : ClassTable) (members : List Class) : ClassTable :=
  members.foldl pass.record table

theorem admits_append_iff (table : ClassTable) (first second : List Class) :
    pass.Admits table (first ++ second) ↔
      pass.Admits table first ∧ pass.Admits (pass.recordAll table first) second := by
  induction first generalizing table with
  | nil => simp [Admits, recordAll]
  | cons decl rest ih =>
      rw [List.cons_append, Admits, Admits, ih, and_assoc]
      rfl

theorem reached_recordAll {table : ClassTable} {members : List Class}
    (known : members ⊆ classes) (reached : pass.reached table)
    (admits : pass.Admits table members) : pass.reached (pass.recordAll table members) := by
  induction members generalizing table with
  | nil => exact reached
  | cons decl rest ih =>
      rcases admits with ⟨allowed, admits⟩
      rcases List.cons_subset.mp known with ⟨declMem, restKnown⟩
      exact ih restKnown (pass.reached_record decl declMem reached allowed) admits

/-! ## Passes that keep the table -/

section Keeping

variable {table : ClassTable} {members : List Class}
  (keeps : ∀ table decl, pass.record table decl = table)

include keeps

theorem recordAll_of_keeps : pass.recordAll table members = table := by
  induction members with
  | nil => rfl
  | cons decl rest ih =>
      change pass.recordAll (pass.record table decl) rest = table
      rw [keeps, ih]

theorem admits_iff_of_keeps :
    pass.Admits table members ↔ ∀ decl ∈ members, pass.allowed table decl := by
  induction members with
  | nil => simp [Admits]
  | cons decl rest ih => rw [Admits, keeps, ih, List.forall_mem_cons]

end Keeping

variable {generator next : Generator}

theorem perform_collect_eq_ok_iff {members : List Class} {answers : List (Class × α)}
    (known : members ⊆ classes) (reached : pass.reached generator.table) :
    generator.perform (collect pass.emit members) = (.ok answers, next) ↔
      pass.Admits generator.table members ∧
        answers = members.map (fun decl => (decl, pass.answer decl)) ∧
        next = { generator with
          draft := Draft.writeBlocks pass.place pass.block members generator.draft
          table := pass.recordAll generator.table members } := by
  induction members generalizing generator answers with
  | nil =>
      simp only [collect, perform_pure, Prod.mk.injEq, Except.ok.injEq, Admits, true_and,
        List.map_nil, Draft.writeBlocks, recordAll, List.foldl_nil, eq_comm]
  | cons decl rest ih =>
      rcases List.cons_subset.mp known with ⟨declMem, restKnown⟩
      simp only [collect, perform_bind_eq_ok_iff, pass.emit_eq_ok_iff decl declMem reached,
        perform_pure, Prod.mk.injEq, Except.ok.injEq]
      constructor
      · rintro ⟨_, _, ⟨allowed, rfl, rfl⟩, later, _, ran, rfl, rfl⟩
        rcases (ih restKnown (pass.reached_record decl declMem reached allowed)).mp ran with
          ⟨admits, rfl, rfl⟩
        exact ⟨⟨allowed, admits⟩, rfl, rfl⟩
      · rintro ⟨⟨allowed, admits⟩, rfl, rfl⟩
        have still := pass.reached_record decl declMem reached allowed
        exact ⟨_, _, ⟨allowed, rfl, rfl⟩, _, _,
          (ih restKnown (by exact still)).mpr ⟨admits, rfl, rfl⟩, rfl, rfl⟩

/-- A pass over groups succeeds when the namespaces can be entered and every class is
allowed when its turn comes. -/
theorem perform_collectGroups_eq_ok_iff {groups : List (NamespacePath × List Class)}
    {answers : List (Class × α)} (known : groupMembers groups ⊆ classes)
    (reached : pass.reached generator.table) :
    generator.perform (collectGroups pass.emit groups) = (.ok answers, next) ↔
      (∀ group ∈ groups, group.1.check = .ok ()) ∧
        pass.Admits generator.table (groupMembers groups) ∧
        answers = (groupMembers groups).map (fun decl => (decl, pass.answer decl)) ∧
        next = { generator with
          draft := Draft.writeGroups pass.place pass.block groups generator.draft
          table := pass.recordAll generator.table (groupMembers groups) } := by
  induction groups generalizing generator answers with
  | nil =>
      simp only [collectGroups, perform_pure, Prod.mk.injEq, Except.ok.injEq, groupMembers,
        List.flatMap_nil, Admits, List.map_nil, Draft.writeGroups, recordAll, List.foldl_nil,
        List.not_mem_nil, false_implies, implies_true, true_and, eq_comm]
  | cons group rest ih =>
      rcases group with ⟨path, members⟩
      have shape : groupMembers ((path, members) :: rest) = members ++ groupMembers rest := rfl
      rw [shape] at known ⊢
      rcases List.append_subset.mp known with ⟨membersKnown, restKnown⟩
      rw [collectGroups, perform_onDraft_bind, perform_then_eq_ok_iff]
      simp only [perform_enterNamespace_eq_ok_iff, perform_bind_eq_ok_iff, perform_pure,
        Prod.mk.injEq, Except.ok.injEq, List.forall_mem_cons, pass.admits_append_iff]
      constructor
      · rintro ⟨_, ⟨checked, rfl⟩, _, _, ran, _, _, later, rfl, rfl⟩
        rcases (pass.perform_collect_eq_ok_iff membersKnown (by exact reached)).mp ran with
          ⟨admits, rfl, rfl⟩
        have still := pass.reached_recordAll membersKnown reached admits
        rcases (ih restKnown (by exact still)).mp later with ⟨restChecked, restAdmits, rfl, rfl⟩
        refine ⟨⟨checked, restChecked⟩, ⟨admits, restAdmits⟩, ?_, ?_⟩
        · rw [List.map_append]
        · simp [Draft.writeGroups, recordAll]
      · rintro ⟨⟨checked, restChecked⟩, ⟨admits, restAdmits⟩, rfl, rfl⟩
        have still := pass.reached_recordAll membersKnown reached admits
        refine ⟨_, ⟨checked, rfl⟩, _, _,
          (pass.perform_collect_eq_ok_iff membersKnown (by exact reached)).mpr
            ⟨admits, rfl, rfl⟩, _, _,
          (ih restKnown (by exact still)).mpr ⟨restChecked, restAdmits, rfl, ?_⟩, ?_, rfl⟩
        · simp [Draft.writeGroups, recordAll]
        · rw [List.map_append]

/-- The same for a pass that answers nothing. -/
theorem perform_emitGroups_eq_ok_iff (pass : Pass Unit classes)
    {groups : List (NamespacePath × List Class)} (known : groupMembers groups ⊆ classes)
    (reached : pass.reached generator.table) :
    generator.perform (emitGroups pass.emit groups) = (.ok (), next) ↔
      (∀ group ∈ groups, group.1.check = .ok ()) ∧
        pass.Admits generator.table (groupMembers groups) ∧
        next = { generator with
          draft := Draft.writeGroups pass.place pass.block groups generator.draft
          table := pass.recordAll generator.table (groupMembers groups) } := by
  rw [emitGroups_unit_eq, perform_discard_eq_ok_iff]
  simp only [pass.perform_collectGroups_eq_ok_iff known reached, exists_and_left,
    exists_eq_left]

end Pass

end Generator

end VtableHeader
