import VtableHeader.Proofs.FailedSteps
import VtableHeader.Proofs.Passes

/-!
# Runs that complete

A caller who generates a header step by step reads the answer of each step.  `outcomes` lists them,
and a run completes when none of them is an error.  Runs that ask for the same kind of block of one
class after another complete exactly when the pass over these classes succeeds, with the same
answers and in the same generator.
-/

namespace VtableHeader

namespace Draft

variable {place : Section} {first second : Class → List Line}

theorem writeBlocks_concat (classes : List Class) (decl : Class) (draft : Draft) :
    writeBlocks place first (classes ++ [decl]) draft =
      (writeBlocks place first classes draft).onSections (·.block place (first decl)) := by
  induction classes generalizing draft with
  | nil => rfl
  | cons other rest ih => exact ih _

theorem writeBlocks_congr {classes : List Class} (draft : Draft)
    (same : ∀ decl ∈ classes, first decl = second decl) :
    writeBlocks place first classes draft = writeBlocks place second classes draft := by
  induction classes generalizing draft with
  | nil => rfl
  | cons decl rest ih =>
      obtain ⟨here, others⟩ := List.forall_mem_cons.mp same
      rw [writeBlocks, writeBlocks, here, ih _ others]

end Draft

namespace Generator

variable {generator next : Generator}

/-- What the steps of a run answer, one after another, whether they fail or not. -/
def outcomes : Generator → List Step → List (Except GenError (Option (List Slot)))
  | _, [] => []
  | generator, step :: rest =>
      (generator.perform step.action).1 :: (generator.after step).outcomes rest

/-- All steps of a run succeed, with the given answers, and lead to `next`. -/
def Completes (generator : Generator) (steps : List Step) (answers : List (Option (List Slot)))
    (next : Generator) : Prop :=
  generator.outcomes steps = answers.map .ok ∧ generator.afterAll steps = next

theorem completes_nil_iff {answers : List (Option (List Slot))} :
    generator.Completes [] answers next ↔ answers = [] ∧ generator = next := by
  simp [Completes, outcomes, afterAll, eq_comm]

theorem completes_cons_iff {step : Step} {steps : List Step}
    {answers : List (Option (List Slot))} :
    generator.Completes (step :: steps) answers next ↔
      ∃ answer later middle, answers = answer :: later ∧
        generator.perform step.action = (.ok answer, middle) ∧
        middle.Completes steps later next := by
  constructor
  · rintro ⟨answered, reached⟩
    cases answers with
    | nil => simp [outcomes] at answered
    | cons answer later =>
        rw [outcomes, List.map_cons, List.cons.injEq] at answered
        exact ⟨answer, later, generator.after step, rfl, Prod.ext answered.1 rfl, answered.2,
          reached⟩
  · rintro ⟨answer, later, middle, rfl, ran, answered, reached⟩
    have same : generator.after step = middle := by rw [after, ran]
    constructor
    · rw [outcomes, same, ran, answered, List.map_cons]
    · change (generator.after step).afterAll steps = next
      rw [same, reached]

theorem completes_append_iff {first second : List Step} {answers : List (Option (List Slot))} :
    generator.Completes (first ++ second) answers next ↔
      ∃ before later middle, answers = before ++ later ∧
        generator.Completes first before middle ∧ middle.Completes second later next := by
  induction first generalizing generator answers with
  | nil =>
      constructor
      · intro runs
        exact ⟨[], answers, generator, rfl, completes_nil_iff.mpr ⟨rfl, rfl⟩, runs⟩
      · rintro ⟨_, later, _, rfl, begins, runs⟩
        obtain ⟨rfl, rfl⟩ := completes_nil_iff.mp begins
        exact runs
  | cons step rest ih =>
      simp only [List.cons_append, completes_cons_iff, ih]
      constructor
      · rintro ⟨answer, _, between, rfl, ran, before, later, middle, rfl, begins, runs⟩
        exact ⟨answer :: before, later, middle, rfl,
          ⟨answer, before, between, rfl, ran, begins⟩, runs⟩
      · rintro ⟨_, later, middle, rfl, ⟨answer, before, between, rfl, ran, begins⟩, runs⟩
        exact ⟨answer, before ++ later, between, rfl, ran, before, later, middle, rfl, begins, runs⟩

theorem exists_eq_map_ok_of_toBool {ε α : Type} (results : List (Except ε α))
    (succeed : ∀ result ∈ results, result.toBool = true) :
    ∃ answers : List α, results = answers.map .ok := by
  induction results with
  | nil => exact ⟨[], rfl⟩
  | cons result rest ih =>
      obtain ⟨here, others⟩ := List.forall_mem_cons.mp succeed
      obtain ⟨answer, rfl⟩ := exists_eq_ok_of_toBool result here
      obtain ⟨answers, rfl⟩ := ih others
      exact ⟨answer :: answers, rfl⟩

/-- A run succeeds at every step exactly when it completes with some answers. -/
theorem forall_outcomes_iff {steps : List Step} :
    (∀ outcome ∈ generator.outcomes steps, outcome.toBool = true) ↔
      ∃ answers next, generator.Completes steps answers next := by
  constructor
  · intro succeed
    obtain ⟨answers, same⟩ := exists_eq_map_ok_of_toBool _ succeed
    exact ⟨answers, _, same, rfl⟩
  · rintro ⟨answers, _, same, _⟩ outcome member
    rw [same] at member
    obtain ⟨_, _, rfl⟩ := List.mem_map.mp member
    rfl

/-- One step for each class completes when the actions behind the steps do. -/
theorem completes_map_iff {α : Type} {classes : List Class} {step : Class → Step}
    {emit : Class → Action α} {convert : α → Option (List Slot)}
    (shape : ∀ decl, (step decl).action = convert <$> emit decl)
    {answers : List (Option (List Slot))} :
    generator.Completes (classes.map step) answers next ↔
      ∃ collected, generator.perform (collect emit classes) = (.ok collected, next) ∧
        answers = collected.map fun answer => convert answer.2 := by
  have performs : ∀ (generator : Generator) decl answer middle,
      generator.perform (step decl).action = (.ok answer, middle) ↔
        ∃ result, generator.perform (emit decl) = (.ok result, middle) ∧
          answer = convert result := by
    intro generator decl answer middle
    rw [shape, perform_map]
    rcases generator.perform (emit decl) with ⟨error | result, after⟩
    · simp [Except.map]
    · simp only [Except.map, Prod.mk.injEq, Except.ok.injEq]
      grind
  induction classes generalizing generator answers with
  | nil =>
      simp only [List.map_nil, completes_nil_iff, collect, perform_pure, Prod.mk.injEq,
        Except.ok.injEq]
      constructor
      · rintro ⟨rfl, rfl⟩
        exact ⟨[], ⟨rfl, rfl⟩, rfl⟩
      · rintro ⟨_, ⟨rfl, rfl⟩, rfl⟩
        exact ⟨rfl, rfl⟩
  | cons decl rest ih =>
      simp only [List.map_cons, completes_cons_iff, performs, ih, collect, perform_bind_eq_ok_iff,
        perform_pure, Prod.mk.injEq, Except.ok.injEq]
      constructor
      · rintro ⟨_, _, middle, rfl, ⟨result, ran, rfl⟩, collected, runs, rfl⟩
        exact ⟨(decl, result) :: collected, ⟨result, middle, ran, collected, next, runs, rfl, rfl⟩,
          rfl⟩
      · rintro ⟨_, ⟨result, middle, ran, collected, _, runs, rfl, rfl⟩, rfl⟩
        exact ⟨_, _, middle, rfl, ⟨result, ran, rfl⟩, collected, runs, rfl⟩

theorem collect_concat {α : Type} (emit : Class → Action α) (done : List Class) (decl : Class) :
    collect emit (done ++ [decl]) = (do
      let answers ← collect emit done
      let answer ← emit decl
      return answers ++ [(decl, answer)]) := by
  induction done with
  | nil => simp [collect]
  | cons first rest ih => simp [collect, ih]

/-- Steps of one pass complete when each class is allowed when its turn comes. -/
theorem Pass.completes_iff {classes : List Class} (pass : Pass Unit classes)
    {answers : List (Option (List Slot))} {step : Class → Step}
    (shape : ∀ decl, (step decl).action = (fun _ => none) <$> pass.emit decl)
    (reached : pass.reached generator.table) :
    generator.Completes (classes.map step) answers next ↔
      pass.Admits generator.table classes ∧ answers = classes.map (fun _ => none) ∧
        next = { generator with
          draft := Draft.writeBlocks pass.place pass.block classes generator.draft
          table := pass.recordAll generator.table classes } := by
  simp only [completes_map_iff shape,
    pass.perform_collect_eq_ok_iff (List.Subset.refl _) reached]
  constructor
  · rintro ⟨_, ⟨admits, rfl, rfl⟩, rfl⟩
    exact ⟨admits, by rw [List.map_map]; rfl, rfl⟩
  · rintro ⟨admits, rfl, rfl⟩
    exact ⟨_, ⟨admits, rfl, rfl⟩, by rw [List.map_map]; rfl⟩

end Generator

end VtableHeader
