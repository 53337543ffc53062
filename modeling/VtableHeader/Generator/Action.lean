import VtableHeader.ClassTable
import VtableHeader.Draft
import VtableHeader.Options

/-!
# Actions on a generator

A generator is the header under construction together with the classes declared
in it.  Actions change it and may fail; a failing action leaves behind whatever
it had done before, so its result is an answer or an error beside the generator
that it leaves.  `perform` shows both, and its laws say what each way of building
an action does.
-/

namespace VtableHeader

/-- The header under construction and the classes declared in it. -/
structure Generator where
  options : Options
  draft : Draft
  table : ClassTable := {}
  deriving DecidableEq, Repr

namespace Generator

/-- An action on a generator; when it fails, its changes up to then remain. -/
abbrev Action (α : Type) := ExceptT GenError (StateM Generator) α

/-- What an action answers, and the generator after it. -/
def perform {α : Type} (generator : Generator) (action : Action α) :
    Except GenError α × Generator :=
  action.run.run generator

/-- The generator as it is. -/
def current : Action Generator :=
  get

/-- Change the draft. -/
def onDraft (change : Draft → Draft) : Action Unit :=
  modify fun generator => { generator with draft := change generator.draft }

/-- Change the class table. -/
def onTable (change : ClassTable → ClassTable) : Action Unit :=
  modify fun generator => { generator with table := change generator.table }

/-- Pass on the result of a check or a computation. -/
def require {α : Type} (result : Except GenError α) : Action α :=
  ExceptT.mk (pure result)

@[simp]
theorem perform_pure {α : Type} (generator : Generator) (answer : α) :
    generator.perform (pure answer) = (.ok answer, generator) :=
  rfl

/-- The second action starts where the first one ends, unless that one fails. -/
theorem perform_bind {α β : Type} (generator : Generator) (first : Action α)
    (second : α → Action β) :
    generator.perform (first >>= second) =
      match generator.perform first with
      | (.ok answer, next) => next.perform (second answer)
      | (.error error, next) => (.error error, next) := by
  simp only [perform, ExceptT.run_bind, StateT.run_bind]
  cases result : StateT.run first.run generator with
  | mk outcome next => cases outcome <;> rfl

@[simp]
theorem perform_map {α β : Type} (generator : Generator) (change : α → β) (action : Action α) :
    generator.perform (change <$> action) =
      ((generator.perform action).1.map change, (generator.perform action).2) := by
  rw [map_eq_pure_bind, perform_bind]
  cases generator.perform action with
  | mk outcome next => cases outcome <;> rfl

@[simp]
theorem perform_current (generator : Generator) :
    generator.perform current = (.ok generator, generator) :=
  rfl

@[simp]
theorem perform_onDraft (generator : Generator) (change : Draft → Draft) :
    generator.perform (onDraft change) =
      (.ok (), { generator with draft := change generator.draft }) :=
  rfl

@[simp]
theorem perform_onTable (generator : Generator) (change : ClassTable → ClassTable) :
    generator.perform (onTable change) =
      (.ok (), { generator with table := change generator.table }) :=
  rfl

@[simp]
theorem perform_require {α : Type} (generator : Generator) (result : Except GenError α) :
    generator.perform (require result) = (result, generator) :=
  rfl

end Generator

end VtableHeader
