import VtableHeader.Proofs.BlockText
import VtableHeader.Proofs.OrderlyEmission
import VtableHeader.Proofs.Settling

/-!
# Placement in stepwise runs

A caller who asks for every block while the namespaces of its class are open may expect the block
to stand inside them.  Only a whole unit sees to this: it flushes before it changes the namespaces.
Single steps that open or close namespaces do not flush, and the blocks that wait are carried along
to wherever the next flush finds them.

In a finished header every block stands in the namespaces that are open at the next flush after it
was written.  No block is displaced if single steps change the namespaces only while none waits, as
in a run of whole units.
-/

namespace VtableHeader

/-- Orderly journals write every block in place. -/
theorem Orderly.inPlace {allowed : Block → Prop} {scope : List String} {journal : List Entry}
    (orderly : Orderly allowed scope journal) :
    ∀ placed ∈ enclosures scope journal, InPlace placed := by
  induction orderly with
  | nil scope => simp [enclosures]
  | @group scope middle lines rest blocks plain entered inside _ ih =>
      change ∀ placed ∈ enclosures scope (lines ++ (blocks.map .block ++ rest)), InPlace placed
      rw [enclosures_append entered, enclosures_lines plain, List.nil_append,
        enclosures_append (openAfter_blocks middle blocks), enclosures_blocks]
      apply List.forall_mem_append.mpr ⟨_, ih⟩
      intro placed member
      obtain ⟨block, written, rfl⟩ := List.mem_map.mp member
      exact (inside block written).2

/-! ## Waiting blocks -/

theorem Block.text_ne_empty (indentUnit : String) (content : Block) :
    Piece.text indentUnit (.block content) ≠ "" := by
  cases content <;> simp [text_forward, text_body, text_vtable]

theorem eq_nil_of_piecesText_eq_empty {indentUnit : String} {blocks : List Block}
    (empty : piecesText indentUnit (blocks.map .block) = "") : blocks = [] := by
  cases blocks with
  | nil => rfl
  | cons content rest =>
      rw [List.map_cons, piecesText_cons, String.append_eq_empty_iff] at empty
      exact absurd empty.1 (content.text_ne_empty indentUnit)

/-- No block waits where no text does. -/
theorem Draft.Shows.waiting_eq_nil {draft : Draft} {indentUnit base : String}
    {arrangement : Arrangement} (shows : draft.Shows indentUnit base arrangement)
    (ends : draft.sections.EndsAt .head) : arrangement.waiting = [] := by
  have noClasses := eq_nil_of_piecesText_eq_empty (shows.classDecls.symm.trans ends.1)
  have noVtables := eq_nil_of_piecesText_eq_empty (shows.vtables.symm.trans ends.2)
  rw [Arrangement.waiting, noClasses, noVtables, List.append_nil]

instance (sections : Sections) : Decidable (sections.EndsAt .head) :=
  inferInstanceAs (Decidable (_ ∧ _))

namespace Generator

/-- The class that a single step writes a block for. -/
def Step.decl? : Step → Option Class
  | .forward decl | .body decl | .vtable decl => some decl
  | .openNamespace _ | .closeAll | .wholeUnit _ => none

/-- The block that a single step writes, if it succeeds. -/
def writtenBlock? (generator : Generator) : Step → Option Block
  | .forward decl =>
      (generator.perform (declareForward decl)).1.toOption.map fun _ => .forward decl
  | .body decl => (generator.perform (declareBody decl)).1.toOption.map fun _ => .body decl
  | .vtable decl => (generator.perform (declareVtable decl)).1.toOption.map (.vtable decl)
  | .openNamespace _ | .closeAll | .wholeUnit _ => none

/-- What a step enters in the journal: lines, the block of a class, or the groups of a unit. -/
def Step.Enters (generator : Generator) (journal : List Entry) : Step → Prop
  | .openNamespace _ | .closeAll => ∀ entry ∈ journal, entry.isLine = true
  | .wholeUnit unit =>
      Orderly (fun block => block.decl ∈ unit.classes) generator.draft.scope journal
  | step => journal = (generator.writtenBlock? step).toList.map .block

/-- A journal of one step. -/
structure StepJournal (generator : Generator) (step : Step) (journal : List Entry) : Prop where
  records : generator.draft.Records journal (generator.after step).draft
  enters : step.Enters generator journal

section Steps

variable {generator : Generator} {step : Step} {journal : List Entry}

/-- An action that writes a block when it succeeds, and nothing when it fails. -/
theorem records_block_of_unspoiled {α : Type} {action : Action α} (block : α → Block)
    (unspoiled : Unspoiled generator action)
    (writes : ∀ answer next, generator.perform action = (.ok answer, next) →
      next.draft = generator.draft.onSections (·.block (block answer).place (block answer).lines)) :
    generator.draft.Records
      (((generator.perform action).1.toOption.map block).toList.map .block)
      (generator.perform action).2.draft := by
  cases outcome : generator.perform action with
  | mk result next =>
      cases result with
      | error error =>
          rw [unspoiled error next outcome]
          exact .nil generator.draft
      | ok answer =>
          change generator.draft.Records [.block (block answer)] next.draft
          rw [writes answer next outcome]
          exact generator.draft.records_block (block answer)

/-- Opening a namespace writes lines only. -/
theorem moves_openNamespace (path : NamespacePath) :
    Leads (fun generator next => generator.draft.Moves next.draft) (openNamespace path) := by
  apply leads_of_unspoiled
  · intro generator
    exact generator.draft.moves_refl
  · intro generator
    exact unspoiled_openNamespace path
  · intro generator _ next opened
    rcases perform_openNamespace_eq_ok_iff.mp opened with ⟨_, rfl⟩
    by_cases global : path.isRoot = true
    · simpa [global] using generator.draft.moves_refl
    · simpa [global] using generator.draft.moves_switchTo path.segments

/-- Every step has a journal. -/
theorem exists_stepJournal (generator : Generator) (step : Step) :
    ∃ journal, StepJournal generator step journal := by
  cases step with
  | openNamespace path =>
      obtain ⟨journal, records, plain⟩ := moves_openNamespace path generator
      rw [← snd_perform_bind_pure (openNamespace path) fun _ => none] at records
      exact ⟨journal, records, plain⟩
  | closeAll =>
      obtain ⟨journal, records, plain⟩ := generator.draft.moves_closeTo 0
      exact ⟨journal, records, plain⟩
  | forward decl =>
      have records := records_block_of_unspoiled (fun _ => .forward decl)
        (unspoiled_declareForward decl : Unspoiled generator _) fun _ next declared =>
          congrArg Generator.draft (perform_declareForward_eq_ok_iff.mp declared).2.2
      rw [← snd_perform_bind_pure (declareForward decl) fun _ => none] at records
      exact ⟨_, records, rfl⟩
  | body decl =>
      have records := records_block_of_unspoiled (fun _ => .body decl)
        (unspoiled_declareBody decl : Unspoiled generator _) fun _ next written =>
          congrArg Generator.draft (perform_declareBody_eq_ok_iff.mp written).2
      rw [← snd_perform_bind_pure (declareBody decl) fun _ => none] at records
      exact ⟨_, records, rfl⟩
  | vtable decl =>
      have records := records_block_of_unspoiled (.vtable decl)
        (unspoiled_declareVtable decl : Unspoiled generator _) fun slots next written =>
          congrArg Generator.draft (perform_declareVtable_eq_ok_iff.mp written).2.2
      rw [← snd_perform_bind_pure (declareVtable decl) some] at records
      exact ⟨_, records, rfl⟩
  | wholeUnit unit =>
      obtain ⟨journal, records, orderly⟩ := extending_emitUnit unit generator
      rw [← snd_perform_bind_pure (emitUnit unit) fun _ => none] at records
      exact ⟨journal, records, orderly⟩

end Steps

/-- Every block of a single class is asked for while the namespaces of the class are open. -/
def AskedInside : Generator → List Step → Prop
  | _, [] => True
  | generator, step :: rest =>
      (∀ decl ∈ step.decl?, generator.draft.scope = decl.path.segments) ∧
        AskedInside (generator.after step) rest

/-- Single steps change the open namespaces only while no block waits. -/
def Calm : Generator → List Step → Prop
  | _, [] => True
  | generator, step :: rest =>
      (step.isSingle = true → (generator.after step).draft.scope = generator.draft.scope ∨
        generator.draft.sections.EndsAt .head) ∧
        Calm (generator.after step) rest

instance decidableAskedInside : (generator : Generator) → (steps : List Step) →
    Decidable (AskedInside generator steps)
  | _, [] => inferInstanceAs (Decidable True)
  | generator, step :: rest =>
      have : Decidable (AskedInside (generator.after step) rest) := decidableAskedInside _ rest
      inferInstanceAs (Decidable (_ ∧ _))

instance decidableCalm : (generator : Generator) → (steps : List Step) →
    Decidable (Calm generator steps)
  | _, [] => inferInstanceAs (Decidable True)
  | generator, step :: rest =>
      have : Decidable (Calm (generator.after step) rest) := decidableCalm _ rest
      inferInstanceAs (Decidable (_ ∧ _))

section Runs

variable {generator : Generator} {step : Step} {journal : List Entry}

theorem mem_of_writtenBlock? {block : Block} (written : generator.writtenBlock? step = some block) :
    block.decl ∈ step.decl? := by
  cases step <;> simp only [writtenBlock?, Option.map_eq_some_iff, reduceCtorEq] at written
  case forward decl =>
    obtain ⟨_, _, rfl⟩ := written
    rfl
  case body decl =>
    obtain ⟨_, _, rfl⟩ := written
    rfl
  case vtable decl =>
    obtain ⟨_, _, rfl⟩ := written
    rfl

/-- The three kinds of journals that steps have. -/
theorem StepJournal.shape (one : StepJournal generator step journal)
    (inside : ∀ decl ∈ step.decl?, generator.draft.scope = decl.path.segments) :
    (step.isSingle = true ∧ ∀ entry ∈ journal, entry.isLine = true) ∨
      (∃ blocks : List Block, journal = blocks.map .block ∧
        ∀ block ∈ blocks, block.decl.path.segments = generator.draft.scope) ∨
      ∃ allowed, Orderly allowed generator.draft.scope journal := by
  have written : ∀ block ∈ (generator.writtenBlock? step).toList,
      block.decl.path.segments = generator.draft.scope := by
    intro block member
    rw [Option.mem_toList] at member
    exact (inside block.decl (mem_of_writtenBlock? member)).symm
  have enters := one.enters
  cases step with
  | openNamespace path => exact .inl ⟨rfl, enters⟩
  | closeAll => exact .inl ⟨rfl, enters⟩
  | forward decl => exact .inr (.inl ⟨_, enters, written⟩)
  | body decl => exact .inr (.inl ⟨_, enters, written⟩)
  | vtable decl => exact .inr (.inl ⟨_, enters, written⟩)
  | wholeUnit unit => exact .inr (.inr ⟨_, enters⟩)

/-- A block that is asked for in its namespaces is written there. -/
theorem StepJournal.inPlace (one : StepJournal generator step journal)
    (inside : ∀ decl ∈ step.decl?, generator.draft.scope = decl.path.segments) :
    ∀ placed ∈ enclosures generator.draft.scope journal, InPlace placed := by
  rcases one.shape inside with ⟨_, plain⟩ | ⟨blocks, rfl, home⟩ | ⟨allowed, orderly⟩
  · rw [enclosures_lines plain]
    simp
  · rw [enclosures_blocks]
    intro placed member
    obtain ⟨block, written, rfl⟩ := List.mem_map.mp member
    exact home block written
  · exact orderly.inPlace

/-- A step displaces no block if it changes the namespaces only while none waits. -/
theorem StepJournal.arrayed {indentUnit base : String} {start : List String}
    {arrangement : Arrangement} (one : StepJournal generator step journal)
    (inside : ∀ decl ∈ step.decl?, generator.draft.scope = decl.path.segments)
    (calm : step.isSingle = true → (generator.after step).draft.scope = generator.draft.scope ∨
      generator.draft.sections.EndsAt .head)
    (shows : generator.draft.Shows indentUnit base arrangement)
    (arrayed : arrangement.Arrayed start) : (arrangement.recordAll journal).Arrayed start := by
  have replayed := one.records.replayed
  rcases one.shape inside with ⟨single, plain⟩ | ⟨blocks, rfl, home⟩ | ⟨allowed, orderly⟩
  · rw [shows.scope] at replayed
    apply arrayed.lines plain replayed
    rw [← shows.scope]
    exact (calm single).imp_right shows.waiting_eq_nil
  · rw [shows.scope] at home
    exact arrayed.blocks home
  · rw [shows.scope] at orderly
    exact orderly.arrayed arrayed

variable {entries : Generator → Step → List Entry}
  (each : ∀ generator step, StepJournal generator step (entries generator step))

include each

theorem inPlace_runJournal {generator : Generator} {steps : List Step}
    (asked : AskedInside generator steps) :
    ∀ placed ∈ enclosures generator.draft.scope (runJournal entries generator steps),
      InPlace placed := by
  induction steps generalizing generator with
  | nil => simp [runJournal, enclosures]
  | cons step rest ih =>
      rcases asked with ⟨inside, later⟩
      have one := each generator step
      rw [runJournal, enclosures_append one.records.replayed]
      exact List.forall_mem_append.mpr ⟨one.inPlace inside, ih later⟩

theorem arrayed_runJournal {indentUnit base : String} {start : List String}
    {arrangement : Arrangement} {generator : Generator} {steps : List Step}
    (asked : AskedInside generator steps) (calm : Calm generator steps)
    (shows : generator.draft.Shows indentUnit base arrangement)
    (arrayed : arrangement.Arrayed start) :
    (arrangement.recordAll (runJournal entries generator steps)).Arrayed start := by
  induction steps generalizing generator arrangement with
  | nil => exact arrayed
  | cons step rest ih =>
      rcases asked with ⟨inside, askedLater⟩
      rcases calm with ⟨quiet, calmLater⟩
      have one := each generator step
      rw [runJournal, Arrangement.recordAll_append]
      exact ih askedLater calmLater (shows.records one.records)
        (one.arrayed inside quiet shows arrayed)

end Runs

/-- When every block is asked for in its namespaces, it is written there, and in the finished
header it stands in the namespaces that are open at the next flush.  It stands in its own if single
steps change the namespaces only while no block waits. -/
theorem stepwise_placement (options : Options) (steps : List Step)
    (asked : AskedInside (start options) steps) :
    ∃ entries : Generator → Step → List Entry,
      (∀ generator step, StepJournal generator step (entries generator step)) ∧
      (∀ placed ∈ enclosures [] (runJournal entries (start options) steps), InPlace placed) ∧
      ∃ pieces,
        ((start options).afterAll steps).finish =
          preambleText options ++ piecesText options.indentUnit pieces ∧
        openAfter [] (pieces.map Piece.entry) = some [] ∧
        (enclosures [] (pieces.map Piece.entry)).Perm
          (settlements [] (runJournal entries (start options) steps)) ∧
        (Calm (start options) steps → replayAll [] pieces = some []) := by
  choose entries each using exists_stepJournal
  have records := records_runJournal (fun generator step => (each generator step).records)
    (start options) steps
  have replayed : openAfter [] (runJournal entries (start options) steps) =
      some ((start options).afterAll steps).draft.scope := records.replayed
  have calmly : Calm (start options) steps →
      replayAll [] (finishedPieces (runJournal entries (start options) steps)) = some [] := by
    intro calm
    have arrayed := arrayed_runJournal each asked calm (shows_start options)
      (Arrangement.arrayed_nothing [])
    rw [finishedPieces, replayAll_append arrayed.replayed, replayAll_closings _ (Nat.le_refl _),
      Nat.sub_self, List.take_zero]
  exact ⟨entries, each, inPlace_runJournal each asked, finishedPieces _, finish_eq_pieces records,
    openAfter_finishedPieces replayed, enclosures_finishedPieces_perm replayed, calmly⟩

/-- A class in a namespace. -/
def classIn (segments : List String) (name : String) : Class :=
  { name := name, path := ⟨segments⟩ }

/-- The namespaces change while nothing waits, and afterwards only within a unit. -/
def calmSteps : List Step :=
  [.openNamespace ⟨["x"]⟩, .openNamespace ⟨["y", "z"]⟩, .forward (classIn ["y", "z"] "A"),
    .vtable (classIn ["y", "z"] "A"), .body (classIn ["y", "z"] "A"),
    .openNamespace ⟨["y", "z"]⟩, .wholeUnit ⟨[classIn ["y"] "B", classIn [] "C"]⟩,
    .forward (classIn [] "D")]

theorem calmSteps_placed :
    AskedInside (start {}) calmSteps ∧ Calm (start {}) calmSteps ∧
      ∃ pieces, ((start {}).afterAll calmSteps).finish =
          preambleText {} ++ piecesText (Options.indentUnit {}) pieces ∧
        replayAll [] pieces = some [] := by
  have asked : AskedInside (start {}) calmSteps := by decide +kernel
  have calm : Calm (start {}) calmSteps := by decide +kernel
  rcases stepwise_placement {} calmSteps asked with ⟨_, _, _, pieces, written, _, _, placed⟩
  exact ⟨asked, calm, pieces, written, placed calm⟩

/-- Two classes, each asked for in its own namespace. -/
def displacedSteps : List Step :=
  [.openNamespace ⟨["x"]⟩, .forward (classIn ["x"] "A"), .openNamespace ⟨["y"]⟩,
    .forward (classIn ["y"] "B")]

/-- What the header of `displacedSteps` is made of: both classes stand in the second namespace. -/
def displacedPieces : List Piece :=
  [.opening 0 "x", .closing 0, .blank, .opening 0 "y", .block (.forward (classIn ["x"] "A")),
    .block (.forward (classIn ["y"] "B")), .closing 0]

theorem displacedSteps_not_placed :
    AskedInside (start {}) displacedSteps ∧
      ((start {}).afterAll displacedSteps).finish =
        preambleText {} ++ piecesText (Options.indentUnit {}) displacedPieces ∧
      (.forward (classIn ["x"] "A"), ["y"]) ∈
        enclosures [] (displacedPieces.map Piece.entry) ∧
      ¬ InPlace (.forward (classIn ["x"] "A"), ["y"]) := by
  decide +kernel

end Generator

end VtableHeader
