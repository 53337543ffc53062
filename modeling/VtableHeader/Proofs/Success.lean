import VtableHeader.Generator
import VtableHeader.Proofs.CheckedClass

/-!
# When steps of the generator succeed

Each step succeeds under a condition on the class table and the class, and then
leaves one definite generator behind.  The laws of this module say both at once,
one equivalence for each step, so that later arguments never open a step again.

Linking and writing a vtable compute the slots of a class in the same way,
`ClassTable.slotsFor`; they differ in the table that they meet.
-/

namespace VtableHeader

/-- Results can be compared, so that closed runs can be evaluated. -/
instance decidableEqExcept {ε α : Type} [DecidableEq ε] [DecidableEq α] :
    DecidableEq (Except ε α)
  | .ok first, .ok second => decidable_of_iff (first = second) (by simp)
  | .error first, .error second => decidable_of_iff (first = second) (by simp)
  | .ok _, .error _ => isFalse (by simp)
  | .error _, .ok _ => isFalse (by simp)

theorem exists_eq_ok_of_toBool {ε α : Type} (result : Except ε α)
    (succeeds : result.toBool = true) : ∃ value, result = .ok value := by
  cases result with
  | ok value => exact ⟨value, rfl⟩
  | error error => simp [Except.toBool] at succeeds

/-- The slots that a class gets from the table as it is. -/
def ClassTable.slotsFor (table : ClassTable) (decl : Class) : Except GenError (List Slot) := do
  decl.effectiveSlots (← table.inheritedSlots decl)

theorem ClassTable.slotsFor_eq_ok_iff {table : ClassTable} {decl : Class} {slots : List Slot} :
    table.slotsFor decl = .ok slots ↔
      ∃ inherited, table.inheritedSlots decl = .ok inherited ∧
        decl.effectiveSlots inherited = .ok slots :=
  bind_eq_ok_iff

namespace Draft

/-- Make `segments` the open namespaces, with an empty line after the lines that this
takes. -/
def movedTo (draft : Draft) (segments : List String) : Draft :=
  if 0 < (draft.switchTo segments).2 then
    (draft.switchTo segments).1.onSections (·.blank .head)
  else (draft.switchTo segments).1

/-- Closing all namespaces is switching to the global one. -/
theorem closeAll_eq_switchTo (draft : Draft) : draft.closeAll = draft.switchTo [] := by
  have apart : commonDepth draft.scope [] = 0 := by
    cases draft.scope <;> rfl
  simp [switchTo, closeAll, closeTo, apart, Sections.openNamespaces]

/-- A namespace is opened when its segments are identifiers. -/
theorem openNamespace_eq_ok_iff {draft : Draft} {path : NamespacePath} {opened : Draft × Nat} :
    draft.openNamespace path = .ok opened ↔
      path.check = .ok () ∧
        opened = if path.isRoot then (draft, 0) else draft.switchTo path.segments := by
  rw [openNamespace, check_bind_eq_ok_iff]
  simp only [pure, Except.pure, Except.ok.injEq, eq_comm]

/-- A namespace is entered when its segments are identifiers; the global one is no
exception. -/
theorem enterNamespace_eq_ok_iff {draft : Draft} {path : NamespacePath} {entered : Draft × Nat} :
    draft.enterNamespace path = .ok entered ↔
      path.check = .ok () ∧ entered = draft.switchTo path.segments := by
  unfold enterNamespace
  by_cases global : path.isRoot = true
  · obtain rfl := NamespacePath.isRoot_iff.mp global
    rw [if_pos global, closeAll_eq_switchTo]
    have passes : NamespacePath.root.check = .ok () := rfl
    simp only [passes, Except.ok.injEq, true_and, eq_comm]
    rfl
  · rw [if_neg global, openNamespace, check_bind_eq_ok_iff]
    simp only [global, pure, Except.pure, Except.ok.injEq]
    rw [eq_comm (b := entered)]
    rfl

end Draft

namespace Generator

variable {generator next : Generator} {decl : Class}

/-- A sequence succeeds when both parts do, the second from where the first ends. -/
theorem perform_bind_eq_ok_iff {α β : Type} {first : Action α} {second : α → Action β}
    {answer : β} :
    generator.perform (first >>= second) = (.ok answer, next) ↔
      ∃ middle between, generator.perform first = (.ok middle, between) ∧
        between.perform (second middle) = (.ok answer, next) := by
  rw [perform_bind]
  cases outcome : generator.perform first with
  | mk result between =>
      cases result with
      | ok value =>
          constructor
          · intro rest
            exact ⟨value, between, rfl, rest⟩
          · rintro ⟨_, _, same, rest⟩
            cases same
            exact rest
      | error error => simp

/-- The same for a first part that answers nothing. -/
theorem perform_then_eq_ok_iff {β : Type} {first : Action Unit} {second : Action β}
    {answer : β} :
    generator.perform (first >>= fun _ => second) = (.ok answer, next) ↔
      ∃ between, generator.perform first = (.ok (), between) ∧
        between.perform second = (.ok answer, next) := by
  rw [perform_bind_eq_ok_iff]
  constructor
  · rintro ⟨⟨⟩, between, ran, rest⟩
    exact ⟨between, ran, rest⟩
  · rintro ⟨between, ran, rest⟩
    exact ⟨(), between, ran, rest⟩

section Sequences

variable {α β : Type} {answer : β}

@[simp]
theorem perform_current_bind (second : Generator → Action β) :
    generator.perform (current >>= second) = generator.perform (second generator) := by
  rw [perform_bind, perform_current]

@[simp]
theorem perform_onDraft_bind (change : Draft → Draft) (second : Unit → Action β) :
    generator.perform (onDraft change >>= second) =
      { generator with draft := change generator.draft }.perform (second ()) := by
  rw [perform_bind, perform_onDraft]

/-- What follows a check or a computation runs when that succeeds. -/
theorem perform_require_bind_eq_ok_iff {result : Except GenError α} {second : α → Action β} :
    generator.perform (require result >>= second) = (.ok answer, next) ↔
      ∃ value, result = .ok value ∧ generator.perform (second value) = (.ok answer, next) := by
  rw [perform_bind, perform_require]
  cases result with
  | ok value =>
      constructor
      · intro rest
        exact ⟨value, rfl, rest⟩
      · rintro ⟨_, same, rest⟩
        cases same
        exact rest
  | error error => simp

theorem perform_requireNew_bind_eq_ok_iff {second : Unit → Action β} :
    generator.perform (requireNew decl >>= second) = (.ok answer, next) ↔
      generator.table.contains decl.qualifiedName = false ∧
        generator.perform (second ()) = (.ok answer, next) := by
  have outcome : generator.perform (requireNew decl) =
      (if generator.table.contains decl.qualifiedName then
        .error (.duplicateClass decl.qualifiedName) else .ok (), generator) := by
    rw [requireNew, perform_current_bind, perform_require]
  rw [perform_bind, outcome]
  cases generator.table.contains decl.qualifiedName <;> simp

theorem perform_requireDeclared_bind_eq_ok_iff {second : Unit → Action β} :
    generator.perform (requireDeclared decl >>= second) = (.ok answer, next) ↔
      generator.table.contains decl.qualifiedName = true ∧
        generator.perform (second ()) = (.ok answer, next) := by
  have outcome : generator.perform (requireDeclared decl) =
      (if generator.table.contains decl.qualifiedName then .ok ()
        else .error (.bodyBeforeForward decl.qualifiedName), generator) := by
    rw [requireDeclared, perform_current_bind, perform_require]
  rw [perform_bind, outcome]
  cases generator.table.contains decl.qualifiedName <;> simp

end Sequences

theorem perform_declareForward_eq_ok_iff :
    generator.perform (declareForward decl) = (.ok (), next) ↔
      decl.check = .ok () ∧ generator.table.contains decl.qualifiedName = false ∧
        next = { generator with
          draft := generator.draft.writeForward decl
          table := generator.table.insert decl } := by
  rw [declareForward, perform_require_bind_eq_ok_iff]
  simp only [perform_requireNew_bind_eq_ok_iff, perform_onDraft_bind, perform_onTable,
    Prod.mk.injEq, true_and, exists_and_right, eq_comm (b := next)]
  constructor
  · rintro ⟨⟨⟨⟩, checked⟩, rest⟩
    exact ⟨checked, rest⟩
  · rintro ⟨checked, rest⟩
    exact ⟨⟨(), checked⟩, rest⟩

theorem perform_declareBody_eq_ok_iff :
    generator.perform (declareBody decl) = (.ok (), next) ↔
      generator.table.contains decl.qualifiedName = true ∧
        next = { generator with draft := generator.draft.writeBody decl } := by
  rw [declareBody, perform_requireDeclared_bind_eq_ok_iff, perform_onDraft]
  simp only [Prod.mk.injEq, true_and, eq_comm (b := next)]

theorem perform_storeSlots_eq_ok_iff {slots : List Slot} :
    generator.perform (storeSlots decl slots) = (.ok (), next) ↔
      generator.table.contains decl.qualifiedName = true ∧
        next = { generator with table := generator.table.setSlots decl.qualifiedName slots } := by
  rw [storeSlots, perform_requireDeclared_bind_eq_ok_iff, perform_onTable]
  simp only [Prod.mk.injEq, true_and, eq_comm (b := next)]

theorem perform_link_eq_ok_iff :
    generator.perform (link decl) = (.ok (), next) ↔
      generator.table.contains decl.qualifiedName = true ∧
        ∃ slots, generator.table.slotsFor decl = .ok slots ∧
          next = { generator with
            table := generator.table.setSlots decl.qualifiedName slots } := by
  simp only [link, perform_current_bind, perform_require_bind_eq_ok_iff,
    perform_storeSlots_eq_ok_iff, ClassTable.slotsFor_eq_ok_iff]
  constructor
  · rintro ⟨inherited, found, slots, effective, known, result⟩
    exact ⟨known, slots, ⟨inherited, found, effective⟩, result⟩
  · rintro ⟨known, slots, ⟨inherited, found, effective⟩, result⟩
    exact ⟨inherited, found, slots, effective, known, result⟩

/-- A vtable is written when the class is declared and its slots can be computed. -/
theorem perform_declareVtable_eq_ok_iff {slots : List Slot} :
    generator.perform (declareVtable decl) = (.ok slots, next) ↔
      generator.table.contains decl.qualifiedName = true ∧
        generator.table.slotsFor decl = .ok slots ∧
          next = { generator with
            draft := generator.draft.onSections (·.block .vtables (decl.vtableBlock slots))
            table := generator.table.setSlots decl.qualifiedName slots } := by
  rw [declareVtable, perform_requireDeclared_bind_eq_ok_iff]
  simp only [perform_current_bind, perform_require_bind_eq_ok_iff, perform_onDraft_bind,
    perform_then_eq_ok_iff, perform_storeSlots_eq_ok_iff, perform_pure,
    ClassTable.slotsFor_eq_ok_iff, Draft.writeVtable, bind_eq_ok_iff]
  constructor
  · rintro ⟨known, inherited, found, _, ⟨own, effective, written⟩, _, ⟨_, rfl⟩, result⟩
    cases written
    cases result
    exact ⟨known, ⟨inherited, found, effective⟩, rfl⟩
  · rintro ⟨known, ⟨inherited, found, effective⟩, rfl⟩
    exact ⟨known, inherited, found, _, ⟨slots, effective, rfl⟩, _, ⟨known, rfl⟩, rfl⟩

/-- A base that cannot be resolved stops a vtable before anything is written. -/
theorem perform_declareVtable_of_inheritedSlots_error {error : GenError}
    (present : generator.table.contains decl.qualifiedName = true)
    (failed : generator.table.inheritedSlots decl = .error error) :
    generator.perform (declareVtable decl) = (.error error, generator) := by
  have declared : generator.perform (requireDeclared decl) = (.ok (), generator) := by
    rw [requireDeclared, perform_current_bind, perform_require, if_pos present]
  rw [declareVtable, perform_bind, declared]
  simp only [perform_current_bind]
  rw [perform_bind, perform_require, failed]

theorem perform_openNamespace_eq_ok_iff {path : NamespacePath} :
    generator.perform (openNamespace path) = (.ok (), next) ↔
      path.check = .ok () ∧
        next = { generator with
          draft := if path.isRoot then generator.draft
            else (generator.draft.switchTo path.segments).1 } := by
  simp only [openNamespace, perform_current_bind, perform_require_bind_eq_ok_iff,
    Draft.openNamespace_eq_ok_iff, perform_onDraft, Prod.mk.injEq, true_and]
  constructor
  · rintro ⟨_, ⟨checked, rfl⟩, rfl⟩
    exact ⟨checked, by split <;> rfl⟩
  · rintro ⟨checked, rfl⟩
    exact ⟨_, ⟨checked, rfl⟩, by split <;> rfl⟩

theorem perform_enterNamespace_eq_ok_iff {path : NamespacePath} :
    generator.perform (enterNamespace path) = (.ok (), next) ↔
      path.check = .ok () ∧
        next = { generator with draft := generator.draft.movedTo path.segments } := by
  simp only [enterNamespace, perform_current_bind, perform_require_bind_eq_ok_iff,
    Draft.enterNamespace_eq_ok_iff, perform_onDraft, Prod.mk.injEq, true_and]
  constructor
  · rintro ⟨_, ⟨checked, rfl⟩, rfl⟩
    exact ⟨checked, rfl⟩
  · rintro ⟨checked, rfl⟩
    exact ⟨_, ⟨checked, rfl⟩, rfl⟩

end Generator

end VtableHeader
