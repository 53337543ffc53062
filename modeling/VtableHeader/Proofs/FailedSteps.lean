import VtableHeader.Proofs.Effects
import VtableHeader.Proofs.NamespaceBalance

/-!
# Steps that fail

A single step checks everything that it may refuse before it changes anything: all segments of a
path before a namespace line is written, a class before its forward declarations, the base and
the marks of a class before its vtable.  So a step that fails leaves no trace, neither in the text
nor in the class table, and a run ends in the same generator when its failing steps are left out.

A whole unit is not such a step.  When it fails, what it had written before remains.
-/

namespace VtableHeader.Generator

variable {generator : Generator}

/-- Whether a step is a single one, and not a whole unit. -/
def Step.isSingle : Step → Bool
  | .wholeUnit _ => false
  | _ => true

/-- Whether a step succeeds. -/
def succeeds (generator : Generator) (step : Step) : Bool :=
  (generator.perform step.action).1.toBool

/-- The steps of a run without the single ones that fail. -/
def effective : Generator → List Step → List Step
  | _, [] => []
  | generator, step :: rest =>
      if step.isSingle && !generator.succeeds step then effective generator rest
      else step :: effective (generator.after step) rest

section Checks

variable {β : Type} {decl : Class} {rest : Unit → Action β}

theorem unspoiled_requireNew_bind
    (continues : generator.table.contains decl.qualifiedName = false →
      Unspoiled generator (rest ())) :
    Unspoiled generator (requireNew decl >>= rest) := by
  rw [requireNew, bind_assoc]
  apply unspoiled_current_bind
  apply unspoiled_require_bind
  intro _ passed
  apply continues
  by_contra taken
  simp [taken] at passed

theorem unspoiled_requireDeclared_bind
    (continues : generator.table.contains decl.qualifiedName = true →
      Unspoiled generator (rest ())) :
    Unspoiled generator (requireDeclared decl >>= rest) := by
  rw [requireDeclared, bind_assoc]
  apply unspoiled_current_bind
  apply unspoiled_require_bind
  intro _ passed
  apply continues
  by_contra missing
  simp [missing] at passed

end Checks

theorem unspoiled_openNamespace (path : NamespacePath) :
    Unspoiled generator (openNamespace path) := by
  apply unspoiled_current_bind
  apply unspoiled_require_bind
  intro opened _
  exact unspoiled_of_ok (perform_onDraft generator _)

theorem unspoiled_enterNamespace (path : NamespacePath) :
    Unspoiled generator (enterNamespace path) := by
  apply unspoiled_current_bind
  apply unspoiled_require_bind
  intro entered _
  exact unspoiled_of_ok (perform_onDraft generator _)

theorem unspoiled_declareForward (decl : Class) :
    Unspoiled generator (declareForward decl) := by
  apply unspoiled_require_bind
  intro _ _
  apply unspoiled_requireNew_bind
  intro _
  apply unspoiled_of_ok
  rw [perform_onDraft_bind, perform_onTable]

theorem unspoiled_declareBody (decl : Class) : Unspoiled generator (declareBody decl) := by
  apply unspoiled_requireDeclared_bind
  intro _
  exact unspoiled_of_ok (perform_onDraft generator _)

theorem unspoiled_link (decl : Class) : Unspoiled generator (link decl) := by
  apply unspoiled_current_bind
  apply unspoiled_require_bind
  intro _ _
  apply unspoiled_require_bind
  intro _ _
  apply unspoiled_requireDeclared_bind
  intro _
  exact unspoiled_of_ok (perform_onTable generator _)

/-- The slots of a vtable are stored after it is written; this cannot fail any more, because the
class is still declared. -/
theorem unspoiled_declareVtable (decl : Class) : Unspoiled generator (declareVtable decl) := by
  apply unspoiled_requireDeclared_bind
  intro declared
  apply unspoiled_current_bind
  apply unspoiled_require_bind
  intro inherited _
  apply unspoiled_current_bind
  apply unspoiled_require_bind
  rintro ⟨draft, slots⟩ _
  have stored : ∃ next, generator.perform (do
      onDraft fun _ => draft
      storeSlots decl slots
      return slots) = (.ok slots, next) := by
    simp only [perform_onDraft_bind, perform_then_eq_ok_iff, perform_storeSlots_eq_ok_iff]
    exact ⟨_, _, ⟨declared, rfl⟩, rfl⟩
  rcases stored with ⟨next, stored⟩
  exact unspoiled_of_ok stored

theorem unspoiled_step {step : Step} (single : step.isSingle = true) :
    Unspoiled generator step.action := by
  cases step with
  | openNamespace path => exact (unspoiled_openNamespace path).bind_pure fun _ => none
  | closeAll => exact (unspoiled_of_ok (perform_onDraft generator _)).bind_pure fun _ => none
  | forward decl => exact (unspoiled_declareForward decl).bind_pure fun _ => none
  | body decl => exact (unspoiled_declareBody decl).bind_pure fun _ => none
  | vtable decl => exact (unspoiled_declareVtable decl).bind_pure some
  | wholeUnit unit => simp [Step.isSingle] at single

theorem exists_perform_of_succeeds {step : Step} (succeeds : generator.succeeds step = true) :
    ∃ answer next, generator.perform step.action = (.ok answer, next) := by
  rcases exists_eq_ok_of_toBool _ succeeds with ⟨answer, answered⟩
  exact ⟨answer, generator.after step, Prod.ext answered rfl⟩

theorem after_eq_self_of_not_succeeds {step : Step} (single : step.isSingle = true)
    (fails : generator.succeeds step = false) : generator.after step = generator := by
  cases outcome : generator.perform step.action with
  | mk result next =>
      cases result with
      | ok answer => simp [succeeds, outcome, Except.toBool] at fails
      | error error =>
          rw [after, outcome]
          exact unspoiled_step single error next outcome

/-- A single step that fails leaves the text, the open namespaces and the class table exactly as
they were. -/
theorem after_eq_self_of_error (generator : Generator) (step : Step) {error : GenError}
    (single : step.isSingle = true) (failed : (generator.perform step.action).1 = .error error) :
    generator.after step = generator := by
  apply after_eq_self_of_not_succeeds single
  rw [succeeds, failed]
  rfl

/-- The generator with one declared class in a namespace that is still open. -/
def halfwayGenerator : Generator :=
  (start {}).afterAll [.openNamespace ⟨["a"]⟩, .forward { name := "A", path := ⟨["a"]⟩ }]

/-- A class with a mark that has nothing to replace. -/
def falselyMarked : Class :=
  { name := "A", path := ⟨["a"]⟩,
    methods := [{ returnType := "int", name := "size", isOverride := true }] }

/-- A namespace whose second segment is missing, a class declared twice, the body of a class
that is not declared, and a vtable that replaces nothing. -/
def refusedSteps : List Step :=
  [.openNamespace ⟨["b", ""]⟩, .forward { name := "A", path := ⟨["a"]⟩ }, .body { name := "A" },
    .vtable falselyMarked]

theorem refusedSteps_change_nothing :
    refusedSteps.map halfwayGenerator.succeeds = List.replicate 4 false ∧
      refusedSteps.map halfwayGenerator.after = List.replicate 4 halfwayGenerator := by
  have refused : ∀ step ∈ refusedSteps,
      step.isSingle = true ∧ halfwayGenerator.succeeds step = false := by
    decide +kernel
  have unchanged : ∀ step ∈ refusedSteps, halfwayGenerator.after step = halfwayGenerator := by
    intro step member
    rcases refused step member with ⟨single, fails⟩
    unfold succeeds at fails
    cases outcome : (halfwayGenerator.perform step.action).1 with
    | ok answer => simp [outcome, Except.toBool] at fails
    | error error => exact after_eq_self_of_error _ step single outcome
  constructor
  · rw [List.map_congr_left fun step member => (refused step member).2]
    rfl
  · rw [List.map_congr_left unchanged]
    rfl

/-- Leaving out the single steps that fail does not change where a run ends. -/
theorem afterAll_effective (generator : Generator) (steps : List Step) :
    generator.afterAll (generator.effective steps) = generator.afterAll steps := by
  induction steps generalizing generator with
  | nil => rfl
  | cons step rest ih =>
      unfold effective
      split
      case isTrue refused =>
        rw [Bool.and_eq_true, Bool.not_eq_true'] at refused
        rcases refused with ⟨single, fails⟩
        change _ = (generator.after step).afterAll rest
        rw [after_eq_self_of_not_succeeds single fails, ih]
      case isFalse => exact ih (generator.after step)

end VtableHeader.Generator
