import VtableHeader.Proofs.CompletedRuns
import VtableHeader.Proofs.Placement

/-!
# Units in a single namespace

The classes of one namespace can be generated in two ways: as a whole unit, or step by step, by
opening the namespace and asking for all forward declarations, all bodies and all vtables.  A unit
links its classes before it writes a vtable, and looks up every base twice; the steps store the
slots of a class when its vtable is written, and look up its base once.  A unit flushes before each
pass, and the steps only at the end.

Within one namespace this makes no difference: no base can be contested there, so both ways succeed
under the same condition and give each class the same slots.  The two headers are the same except
for the empty line that a unit writes after the lines that open the namespace.
-/

namespace VtableHeader

namespace Generator

variable {generator next : Generator}

/-! ## Vtables that are written without linking -/

section Vtables

variable {classes done : List Class} {known : Class → Option (List Slot)}

/-- The vtable of a class that is not linked is written when the classes before it give slots,
and the slots are stored then. -/
theorem perform_declareVtable_unlinked_eq_ok_iff {decl : Class} {slots : List Slot}
    (wellDeclared : WellDeclared classes) (linked : Linked classes done known)
    (inside : done ⊆ classes) (table : generator.table = .listing classes known)
    (member : decl ∈ classes) :
    generator.perform (declareVtable decl) = (.ok slots, next) ↔
      SlotsFrom classes done known decl slots ∧
        next = { generator with
          draft := generator.draft.onSections (·.block .vtables (decl.vtableBlock slots))
          table := .listing classes (Function.update known decl (some slots)) } := by
  have present : generator.table.contains decl.qualifiedName = true :=
    table ▸ ClassTable.contains_listing member
  rw [perform_declareVtable_eq_ok_iff, table, ClassTable.setSlots_listing wellDeclared member,
    ClassTable.slotsFor_listing_eq_ok_iff wellDeclared (.refl classes) inside linked.knows member]
  simp only [← table, present, true_and]

/-- Vtables can be written in the order of the unit exactly when the classes can be linked in
that order, and hold the slots of the linking. -/
theorem perform_collect_declareVtable_eq_ok_iff {answers : List (Class × List Slot)}
    (wellDeclared : WellDeclared classes) (initial : done <+: classes)
    (table : generator.table = .listing classes fun _ => none) :
    generator.perform (collect declareVtable done) = (.ok answers, next) ↔
      ∃ known, Linked classes done known ∧
        answers = done.map (fun decl => (decl, (known decl).getD [])) ∧
        next = { generator with
          draft := Draft.writeBlocks .vtables
            (fun decl => decl.vtableBlock ((known decl).getD [])) done generator.draft
          table := .listing classes known } := by
  -- As for linking, each class is met with the earlier ones in view: the list is read from its end.
  induction done using List.reverseRecOn generalizing next answers with
  | nil =>
      have nothing : { generator with table := .listing classes fun _ => none } = generator := by
        rw [← table]
      simp only [collect, perform_pure, linked_nil_iff, exists_eq_left, Draft.writeBlocks, nothing,
        List.map_nil, Prod.mk.injEq, Except.ok.injEq, eq_comm]
  | append_singleton done last ih =>
      rcases initial with ⟨after, split⟩
      have whole : classes = done ++ last :: after := by simp [← split]
      have earlier : done <+: classes := ⟨last :: after, whole.symm⟩
      have member : last ∈ classes := by simp [whole]
      have fresh : last ∉ done := wellDeclared.notMem_before whole
      have kept : ∀ (known : Class → Option (List Slot)) slots, ∀ decl ∈ done,
          Function.update known last (some slots) decl = known decl := by
        intro known slots decl declMem
        have differ : decl ≠ last := by
          rintro rfl
          exact fresh declMem
        rw [Function.update_of_ne differ]
      have answersEq : ∀ (known : Class → Option (List Slot)) slots,
          (done ++ [last]).map
              (fun decl => (decl, (Function.update known last (some slots) decl).getD [])) =
            done.map (fun decl => (decl, (known decl).getD [])) ++ [(last, slots)] := by
        intro known slots
        rw [List.map_append, List.map_singleton, Function.update_self, Option.getD_some]
        congr 1
        apply List.map_congr_left
        intro decl declMem
        rw [kept known slots decl declMem]
      have draftEq : ∀ (known : Class → Option (List Slot)) slots,
          Draft.writeBlocks .vtables (fun decl =>
              decl.vtableBlock ((Function.update known last (some slots) decl).getD []))
              (done ++ [last]) generator.draft =
            (Draft.writeBlocks .vtables (fun decl => decl.vtableBlock ((known decl).getD [])) done
              generator.draft).onSections (·.block .vtables (last.vtableBlock slots)) := by
        intro known slots
        rw [Draft.writeBlocks_concat, Function.update_self, Option.getD_some]
        congr 1
        apply Draft.writeBlocks_congr
        intro decl declMem
        rw [kept known slots decl declMem]
      simp only [collect_concat, perform_bind_eq_ok_iff, ih earlier, linked_snoc_iff, perform_pure,
        Prod.mk.injEq, Except.ok.injEq]
      constructor
      · rintro ⟨_, _, ⟨known, linked, rfl, rfl⟩, slots, _, ran, rfl, rfl⟩
        obtain ⟨computed, rfl⟩ := (perform_declareVtable_unlinked_eq_ok_iff wellDeclared linked
          earlier.subset rfl member).mp ran
        exact ⟨_, ⟨fresh, known, slots, linked, computed, rfl⟩, (answersEq known slots).symm,
          by rw [draftEq]⟩
      · rintro ⟨_, ⟨_, known, slots, linked, computed, rfl⟩, rfl, rfl⟩
        exact ⟨_, _, ⟨known, linked, rfl, rfl⟩, slots, _,
          (perform_declareVtable_unlinked_eq_ok_iff wellDeclared linked earlier.subset rfl
            member).mpr ⟨computed, rfl⟩, (answersEq known slots).symm, by rw [draftEq]⟩

end Vtables

/-- The steps that generate the classes of one namespace. -/
def namespaceSteps (path : NamespacePath) (classes : List Class) : List Step :=
  [.openNamespace path] ++ classes.map .forward ++ classes.map .body ++ classes.map .vtable

/-- The draft after these steps. -/
def namespaceDraft (path : NamespacePath) (classes : List Class) (slots : Class → List Slot)
    (draft : Draft) : Draft :=
  let opened := if path.isRoot then draft else (draft.switchTo path.segments).1
  let declared := Draft.writeBlocks .classDecls Class.forwardBlock classes opened
  let bodied := Draft.writeBlocks .classDecls Class.bodyBlock classes declared
  Draft.writeBlocks .vtables (fun decl => decl.vtableBlock (slots decl)) classes bodied

section Runs

variable {path : NamespacePath} {classes : List Class} {answers : List (Option (List Slot))}

theorem completes_opening_iff :
    generator.Completes [.openNamespace path] answers next ↔
      path.check = .ok () ∧ answers = [none] ∧
        next = { generator with
          draft := if path.isRoot then generator.draft
            else (generator.draft.switchTo path.segments).1 } := by
  have performs : ∀ answer middle,
      generator.perform (Step.openNamespace path).action = (.ok answer, middle) ↔
        generator.perform (openNamespace path) = (.ok (), middle) ∧ answer = none := by
    intro answer middle
    simp only [Step.action, perform_then_eq_ok_iff, perform_pure, Prod.mk.injEq, Except.ok.injEq]
    constructor
    · rintro ⟨_, ran, rfl, rfl⟩
      exact ⟨ran, rfl⟩
    · rintro ⟨ran, rfl⟩
      exact ⟨_, ran, rfl, rfl⟩
  simp only [completes_cons_iff, completes_nil_iff, performs, perform_openNamespace_eq_ok_iff]
  constructor
  · rintro ⟨_, _, _, rfl, ⟨⟨checked, rfl⟩, rfl⟩, rfl, rfl⟩
    exact ⟨checked, rfl, rfl⟩
  · rintro ⟨checked, rfl, rfl⟩
    exact ⟨_, _, _, rfl, ⟨⟨checked, rfl⟩, rfl⟩, rfl, rfl⟩

theorem completes_forwards_iff (fresh : generator.table = {}) :
    generator.Completes (classes.map .forward) answers next ↔
      WellDeclared classes ∧ answers = classes.map (fun _ => none) ∧
        next = { generator with
          draft := Draft.writeBlocks .classDecls Class.forwardBlock classes generator.draft
          table := .listing classes fun _ => none } := by
  have shape : ∀ decl,
      (Step.forward decl).action = (fun _ => none) <$> (forwardPass classes).emit decl := by
    intro decl
    rw [map_eq_pure_bind]
    rfl
  have empty : generator.table = .listing [] fun _ => none := fresh
  rw [(forwardPass classes).completes_iff shape trivial, empty, forwardPass_admits_iff,
    recordAll_forwardPass, List.nil_append, wellDeclared_iff]
  constructor
  · rintro ⟨⟨checked, distinct, _⟩, result⟩
    exact ⟨⟨checked, distinct⟩, result⟩
  · rintro ⟨⟨checked, distinct⟩, result⟩
    exact ⟨⟨checked, distinct, fun _ _ => rfl⟩, result⟩

theorem completes_bodies_iff {known : Class → Option (List Slot)}
    (table : generator.table = .listing classes known) :
    generator.Completes (classes.map .body) answers next ↔
      answers = classes.map (fun _ => none) ∧
        next = { generator with
          draft := Draft.writeBlocks .classDecls Class.bodyBlock classes generator.draft } := by
  have shape : ∀ decl,
      (Step.body decl).action = (fun _ => none) <$> (bodyPass classes).emit decl := by
    intro decl
    rw [map_eq_pure_bind]
    rfl
  have keeps : ∀ table decl, (bodyPass classes).record table decl = table := fun _ _ => rfl
  have allowed : ∀ decl ∈ classes, (bodyPass classes).allowed generator.table decl :=
    fun decl member => table ▸ ClassTable.contains_listing member
  rw [(bodyPass classes).completes_iff shape trivial, Pass.admits_iff_of_keeps _ keeps,
    Pass.recordAll_of_keeps _ keeps]
  exact and_iff_right allowed

theorem completes_vtables_iff (wellDeclared : WellDeclared classes)
    (table : generator.table = .listing classes fun _ => none) :
    generator.Completes (classes.map .vtable) answers next ↔
      ∃ known, Linked classes classes known ∧
        answers = classes.map (fun decl => some ((known decl).getD [])) ∧
        next = { generator with
          draft := Draft.writeBlocks .vtables
            (fun decl => decl.vtableBlock ((known decl).getD [])) classes generator.draft
          table := .listing classes known } := by
  have shape : ∀ decl, (Step.vtable decl).action = some <$> declareVtable decl := by
    intro decl
    rw [map_eq_pure_bind]
    rfl
  simp only [completes_map_iff shape,
    perform_collect_declareVtable_eq_ok_iff wellDeclared List.prefix_rfl table]
  constructor
  · rintro ⟨_, ⟨known, linked, rfl, rfl⟩, rfl⟩
    exact ⟨known, linked, by rw [List.map_map]; rfl, rfl⟩
  · rintro ⟨known, linked, rfl, rfl⟩
    exact ⟨_, ⟨known, linked, rfl, rfl⟩, by rw [List.map_map]; rfl⟩

end Runs

section OneNamespace

variable {path : NamespacePath} {classes : List Class}

theorem not_contested_of_path (inside : ∀ decl ∈ classes, decl.path = path) {decl : Class}
    (member : decl ∈ classes) : ¬ Contested classes decl := by
  rintro ⟨base, _, _, absent, other, otherMem, _, _, named, _⟩
  exact absent other otherMem ((inside other otherMem).trans (inside decl member).symm) named

variable (nonempty : classes ≠ []) (inside : ∀ decl ∈ classes, decl.path = path)

include nonempty inside

/-- All classes make up one group. -/
theorem groups_of_path : groups classes = [(path, classes)] := by
  have paths : (classes.map (·.path)).eraseDups = [path] := by
    obtain ⟨first, rest, rfl⟩ := List.exists_cons_of_ne_nil nonempty
    obtain ⟨here, others⟩ := List.forall_mem_cons.mp inside
    have repeated : (rest.map (·.path)).filter (fun other => !other == path) = [] := by
      simpa using others
    rw [List.map_cons, here, List.eraseDups_cons, repeated, List.eraseDups_nil]
  have all : classes.filter (·.path = path) = classes := by
    rw [List.filter_eq_self]
    simpa using inside
  rw [groups, paths, List.map_singleton, all]

/-- The classes of one namespace can be generated step by step exactly when they are well
declared and each can be linked after those before it. -/
theorem completes_namespaceSteps_iff {options : Options}
    {answers : List (Option (List Slot))} :
    (start options).Completes (namespaceSteps path classes) answers next ↔
      WellDeclared classes ∧ ∃ known, Linked classes classes known ∧
        answers = [none] ++ classes.map (fun _ => none) ++ classes.map (fun _ => none) ++
          classes.map (fun decl => some ((known decl).getD [])) ∧
        next = { start options with
          draft := namespaceDraft path classes (fun decl => (known decl).getD [])
            (start options).draft
          table := .listing classes known } := by
  simp only [namespaceSteps, completes_append_iff, completes_opening_iff]
  constructor
  · rintro ⟨_, _, _, rfl, ⟨_, _, _, rfl, ⟨_, _, _, rfl, ⟨_, rfl, rfl⟩, forwards⟩, bodies⟩, vtables⟩
    obtain ⟨wellDeclared, rfl, rfl⟩ := (completes_forwards_iff rfl).mp forwards
    obtain ⟨rfl, rfl⟩ := (completes_bodies_iff rfl).mp bodies
    obtain ⟨known, linked, rfl, rfl⟩ := (completes_vtables_iff wellDeclared rfl).mp vtables
    exact ⟨wellDeclared, known, linked, rfl, rfl⟩
  · rintro ⟨wellDeclared, known, linked, rfl, rfl⟩
    have checked : path.check = .ok () := by
      have group : (path, classes) ∈ groups classes := by
        rw [groups_of_path nonempty inside]
        exact List.mem_singleton_self _
      exact check_path_of_group wellDeclared.checked group
    exact ⟨_, _, _, rfl, ⟨_, _, _, rfl, ⟨_, _, _, rfl, ⟨checked, rfl, rfl⟩,
      (completes_forwards_iff rfl).mpr ⟨wellDeclared, rfl, rfl⟩⟩,
      (completes_bodies_iff rfl).mpr ⟨rfl, rfl⟩⟩,
      (completes_vtables_iff wellDeclared rfl).mpr ⟨known, linked, rfl, rfl⟩⟩

end OneNamespace

end Generator

/-! ## The two headers -/

/-- Opening a namespace from the global one writes the opening lines only. -/
theorem Draft.Holds.switchTo {draft : Draft} {indentUnit written : String}
    (holds : draft.Holds indentUnit written .head) (outside : draft.scope = [])
    (segments : List String) :
    (draft.switchTo segments).1.Holds indentUnit
      (written ++ piecesText indentUnit (openings 0 segments)) .head := by
  have depth : draft.sections.Holds indentUnit written 0 .head := by
    have sections := holds
    rwa [Draft.Holds, outside] at sections
  have opened := depth.openNamespaces segments
  rw [Nat.zero_add] at opened
  have sections : (draft.switchTo segments).1.sections =
      draft.sections.openNamespaces segments := by
    simp [Draft.switchTo, outside, commonDepth, Draft.closeTo, Sections.closeNamespaces]
  rwa [Draft.Holds, sections, Draft.scope_switchTo]

/-- Before anything else is written, only the head has text. -/
theorem holds_start_head (options : Options) :
    (Generator.start options).draft.Holds options.indentUnit (preambleText options) .head := by
  have ends : (Generator.start options).draft.sections.EndsAt .head := by
    change (Generator.preamble options _).EndsAt .head
    unfold Generator.preamble
    split <;> exact ⟨rfl, rfl⟩
  exact { holds_start options with ends := ends }

/-- The blocks of all classes, pass by pass. -/
def passBlocks (classes : List Class) (slots : Class → List Slot) : List Piece :=
  (classes.map Block.forward).map .block ++ (classes.map Block.body).map .block ++
    (classes.map fun decl => Block.vtable decl (slots decl)).map .block

/-- The text after the steps for one namespace. -/
theorem finish_namespaceDraft (path : NamespacePath) (classes : List Class)
    (slots : Class → List Slot) (options : Options) (table : ClassTable) :
    { Generator.start options with
      draft := Generator.namespaceDraft path classes slots (Generator.start options).draft
      table := table : Generator }.finish =
      preambleText options ++ piecesText options.indentUnit
        (openings 0 path.segments ++ (passBlocks classes slots ++
          closings path.segments.length path.segments.length)) := by
  have begun := holds_start_head options
  have opened : ∃ opened, opened = (if path.isRoot then (Generator.start options).draft
        else ((Generator.start options).draft.switchTo path.segments).1) ∧
      opened.Holds options.indentUnit
        (preambleText options ++ piecesText options.indentUnit (openings 0 path.segments)) .head ∧
      opened.scope = path.segments := by
    refine ⟨_, rfl, ?_⟩
    by_cases global : path.isRoot = true
    · obtain rfl := NamespacePath.isRoot_iff.mp global
      simpa [NamespacePath.root, NamespacePath.isRoot, openings] using ⟨begun, rfl⟩
    · rw [if_neg global]
      exact ⟨begun.switchTo rfl path.segments, Draft.scope_switchTo _ _⟩
  obtain ⟨opened, openedEq, holds, scope⟩ := opened
  have classDecls : Section.classDecls ≠ .head := by simp
  have vtables : Section.vtables ≠ .head := by simp
  obtain ⟨declared, firstScope⟩ := Draft.Holds.writeBlocks
    (Sections.Holds.of_head holds .classDecls) classDecls .forward classes
  obtain ⟨bodied, secondScope⟩ := Draft.Holds.writeBlocks declared classDecls .body classes
  obtain ⟨finished, thirdScope⟩ := Draft.Holds.writeBlocks (Sections.Holds.to_vtables bodied)
    vtables (fun decl => .vtable decl (slots decl)) classes
  have whole := finished.finish
  rw [thirdScope, secondScope, firstScope, scope] at whole
  simp only [passBlocks, piecesText_append, String.append_assoc] at whole ⊢
  rw [openedEq] at whole
  exact whole

theorem commonDepth_self (segments : List String) :
    commonDepth segments segments = segments.length := by
  induction segments with
  | nil => rfl
  | cons segment rest ih => simp [commonDepth, ih]

/-- Staying in a namespace takes no line. -/
theorem crossing_self (segments : List String) : crossing segments segments = [] := by
  simp [crossing, commonDepth_self, closings, openings, spacing]

/-- Entering a namespace from the global one takes its opening lines and an empty one. -/
theorem crossing_nil (segments : List String) :
    crossing [] segments = openings 0 segments ++ spacing (segments ≠ []) := by
  have apart : commonDepth [] segments = 0 := rfl
  simp only [crossing, apart]
  cases segments <;> simp [closings, openings, spacing]

/-- The pieces of a unit in one namespace. -/
theorem unitPieces_of_path {path : NamespacePath} {classes : List Class} (nonempty : classes ≠ [])
    (inside : ∀ decl ∈ classes, decl.path = path) (slots : Class → List Slot) :
    unitPieces classes slots =
      openings 0 path.segments ++ (spacing (path.segments ≠ []) ++ (passBlocks classes slots ++
        closings path.segments.length path.segments.length)) := by
  simp only [unitPieces, Generator.groups_of_path nonempty inside, scopeAfter, passPieces,
    crossing_self, crossing_nil, passBlocks, List.append_assoc, List.nil_append]

/-- The text up to the lines that open a namespace. -/
def openedText (options : Options) (path : NamespacePath) : String :=
  preambleText options ++ piecesText options.indentUnit (openings 0 path.segments)

/-- Only outside the global namespace an empty line follows the opening lines. -/
theorem piecesText_spacing (unit : String) (path : NamespacePath) :
    piecesText unit (spacing (path.segments ≠ [])) = if path.isRoot then "" else "\n" := by
  cases segments : path.segments <;> simp [spacing, NamespacePath.isRoot, segments, Piece.text]

/-- A single namespace keeps its classes in order. -/
theorem groupMembers_of_path {path : NamespacePath} {classes : List Class} (nonempty : classes ≠ [])
    (inside : ∀ decl ∈ classes, decl.path = path) :
    groupMembers (Generator.groups classes) = classes := by
  rw [Generator.groups_of_path nonempty inside]
  simp [groupMembers]

/-- After a whole unit the class table lists its classes with the slots that were linked. -/
theorem table_emitUnit {unit : ClassUnit} {options : Options} {known : Class → Option (List Slot)}
    (wellDeclared : WellDeclared unit.classes)
    (uncontested : ∀ decl ∈ unit.classes, ¬ Contested unit.classes decl)
    (linked : Linked unit.classes unit.classes known) :
    ((Generator.start options).perform (Generator.emitUnit unit)).2.table =
      .listing (groupMembers (Generator.groups unit.classes)) known := by
  have fresh : (Generator.start options).table = {} := rfl
  have ran := Generator.perform_discard_eq_ok_iff.mpr ⟨_,
    (Generator.perform_emitVtables_eq_ok_iff fresh).mpr
      ⟨wellDeclared, uncontested, known, linked, rfl, rfl⟩⟩
  rw [Generator.emitUnit_eq_discard, ran]

/-- Within one namespace a unit has a header exactly when its classes can be generated step by
step.  Every class then has the same slots both ways, in what the vtable steps answer and in the
class table, and the headers differ only by an empty line after the opening lines of a namespace
that is not the global one. -/
theorem ClassUnit.stepwise_agrees (unit : ClassUnit) (options : Options) (path : NamespacePath)
    (nonempty : unit.classes ≠ []) (inside : ∀ decl ∈ unit.classes, decl.path = path) :
    let begun := Generator.start options
    let steps := Generator.namespaceSteps path unit.classes
    ((∃ text, unit.header options = .ok text) ↔
      ∀ outcome ∈ begun.outcomes steps, outcome.toBool = true) ∧
    ∀ text, unit.header options = .ok text → ∃ (slots : Class → List Slot) (rest : String),
      unit.vtables options = .ok (unit.classes.map fun decl => (decl, slots decl)) ∧
      begun.outcomes steps =
        ([none] ++ unit.classes.map (fun _ => none) ++ unit.classes.map (fun _ => none) ++
          unit.classes.map fun decl => some (slots decl)).map .ok ∧
      (begun.afterAll steps).table = (begun.perform (Generator.emitUnit unit)).2.table ∧
      text = openedText options path ++ (if path.isRoot then "" else "\n") ++ rest ∧
      (begun.afterAll steps).finish = openedText options path ++ rest := by
  intro begun steps
  have uncontested : ∀ decl ∈ unit.classes, ¬ Contested unit.classes decl :=
    fun _ => Generator.not_contested_of_path inside
  constructor
  · rw [Generator.forall_outcomes_iff]
    simp only [header_eq_ok_iff, begun, steps,
      Generator.completes_namespaceSteps_iff nonempty inside]
    constructor
    · rintro ⟨_, wellDeclared, _, known, linked, _⟩
      exact ⟨_, _, wellDeclared, known, linked, rfl, rfl⟩
    · rintro ⟨_, _, wellDeclared, known, linked, _, _⟩
      exact ⟨_, wellDeclared, uncontested, known, linked, rfl⟩
  · intro text accepted
    obtain ⟨wellDeclared, _, known, linked, rfl⟩ := header_eq_ok_iff.mp accepted
    obtain ⟨answered, reached⟩ := (Generator.completes_namespaceSteps_iff nonempty inside).mpr
      ⟨wellDeclared, known, linked, rfl, rfl⟩
    have grouped := groupMembers_of_path nonempty inside
    have vtables : unit.vtables options =
        .ok (unit.classes.map fun decl => (decl, (known decl).getD [])) := by
      rw [vtables_of_linked wellDeclared uncontested linked, ← Generator.groupMembers_groups,
        grouped]
    refine ⟨fun decl => (known decl).getD [], piecesText options.indentUnit
      (passBlocks unit.classes (fun decl => (known decl).getD []) ++
        closings path.segments.length path.segments.length), vtables, answered, ?_, ?_, ?_⟩
    · rw [reached, table_emitUnit wellDeclared uncontested linked, grouped]
    · rw [finish_emittedDraft, unitPieces_of_path nonempty inside, openedText,
        ← piecesText_spacing options.indentUnit]
      simp only [piecesText_append, String.append_assoc]
    · rw [reached, finish_namespaceDraft, openedText]
      simp only [piecesText_append, String.append_assoc]

/-- Three generations in a nested namespace; the last one names its base by the dotted name. -/
def lineageUnit : ClassUnit where
  classes :=
    [{ name := "A", path := ⟨["a", "b"]⟩, methods := [{ returnType := "int", name := "size" }] },
      { name := "B", path := ⟨["a", "b"]⟩, base := some "A",
        methods := [{ returnType := "int", name := "size", isOverride := true }] },
      { name := "C", path := ⟨["a", "b"]⟩, base := some "a.b.B" }]

theorem lineageUnit_stepwise_agrees :
    ∃ rest, lineageUnit.header {} =
        .ok (openedText {} ⟨["a", "b"]⟩ ++ "\n" ++ rest) ∧
      ((Generator.start {}).afterAll
        (Generator.namespaceSteps ⟨["a", "b"]⟩ lineageUnit.classes)).finish =
          openedText {} ⟨["a", "b"]⟩ ++ rest := by
  obtain ⟨text, accepted⟩ := exists_eq_ok_of_toBool (lineageUnit.header {}) (by decide +kernel)
  obtain ⟨_, rest, _, _, _, whole, stepwise⟩ :=
    (lineageUnit.stepwise_agrees {} ⟨["a", "b"]⟩ (by decide) (by decide)).2 text accepted
  exact ⟨rest, by rw [accepted, whole]; rfl, stepwise⟩

end VtableHeader
