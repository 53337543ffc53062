import VtableHeader.Proofs.Linking

/-!
# Emitting a whole unit

The run of a unit is put together here from its passes: declaring, linking, bodies and
vtables.  A unit is emitted exactly when its classes are well declared, each can be
linked after those before it, and no base is contested once all classes are in view.
The text and the slots of every vtable are then known.

The last condition is not implied by the others.  While a unit is linked, a simple base
is looked for among the earlier classes; when vtables are written, it is looked for
among all of them, and a later class of the same name in a third namespace makes it
ambiguous.
-/

namespace VtableHeader

/-- The slots that a table has for a class. -/
def ClassTable.slots? (table : ClassTable) (key : String) : Option (List Slot) :=
  (table.find? key).bind (·.slots)

namespace Generator

variable {generator next : Generator} {classes order : List Class}
  {known : Class → Option (List Slot)} {decl : Class}

/-- Bodies of declared classes can always be written. -/
theorem perform_bodies_eq_ok_iff (wellDeclared : WellDeclared classes)
    (same : order.Perm classes) (table : generator.table = .listing order known) :
    generator.perform (emitGroups declareBody (groups classes)) = (.ok (), next) ↔
      next = { generator with
        draft := Draft.writeGroups .classDecls Class.bodyBlock (groups classes)
          generator.draft } := by
  have keeps : ∀ table decl, (bodyPass classes).record table decl = table := fun _ _ => rfl
  have grouped := groupMembers_groups_perm classes
  have allowed : ∀ decl ∈ groupMembers (groups classes),
      (bodyPass classes).allowed generator.table decl := by
    intro decl member
    exact table ▸ ClassTable.contains_listing (same.mem_iff.mpr (grouped.mem_iff.mp member))
  change generator.perform (emitGroups (bodyPass classes).emit (groups classes)) = _ ↔ _
  rw [(bodyPass classes).perform_emitGroups_eq_ok_iff grouped.subset trivial,
    Pass.admits_iff_of_keeps _ keeps, Pass.recordAll_of_keeps _ keeps]
  constructor
  · rintro ⟨_, _, result⟩
    exact result
  · intro result
    exact ⟨fun group member => check_path_of_group wellDeclared.checked member, allowed, result⟩

/-- A vtable is written for a linked class whose base is not contested, with the slots of
the linking; the table stays as it is. -/
theorem perform_declareVtable_listing_eq_ok_iff {slots : List Slot}
    (wellDeclared : WellDeclared classes) (same : order.Perm classes)
    (linked : Linked classes classes known) (table : generator.table = .listing order known)
    (member : decl ∈ classes) :
    generator.perform (declareVtable decl) = (.ok slots, next) ↔
      ¬ Contested classes decl ∧ slots = (known decl).getD [] ∧
        next = { generator with
          draft := generator.draft.onSections
            (·.block .vtables (decl.vtableBlock ((known decl).getD []))) } := by
  have inOrder : decl ∈ order := same.mem_iff.mpr member
  have present : generator.table.contains decl.qualifiedName = true :=
    table ▸ ClassTable.contains_listing inOrder
  have slotsIff : ∀ slots, generator.table.slotsFor decl = .ok slots ↔
      SlotsFrom classes classes known decl slots := by
    intro slots
    rw [table]
    exact ClassTable.slotsFor_listing_eq_ok_iff wellDeclared same (List.Subset.refl _)
      linked.knows member
  have kept : ∀ slots, known decl = some slots →
      generator.table.setSlots decl.qualifiedName slots = generator.table := by
    intro slots stored
    rw [table, ClassTable.setSlots_listing (wellDeclared.perm same) inOrder, ← stored,
      Function.update_eq_self]
  rw [perform_declareVtable_eq_ok_iff, slotsIff, ← linked.exists_slotsFrom_iff member]
  constructor
  · rintro ⟨_, again, rfl⟩
    have stored := linked.eq_of_slotsFrom wellDeclared member again
    refine ⟨⟨slots, again⟩, by simp [stored], ?_⟩
    rw [kept slots stored, stored, Option.getD_some]
  · rintro ⟨⟨found, again⟩, rfl, rfl⟩
    have stored := linked.eq_of_slotsFrom wellDeclared member again
    rw [stored, Option.getD_some, kept found stored]
    exact ⟨present, again, rfl⟩

/-- The pass that writes vtables after linking. -/
def vtablePass (wellDeclared : WellDeclared classes) (same : order.Perm classes)
    (linked : Linked classes classes known) : Pass (List Slot) classes where
  emit := declareVtable
  reached := fun table => table = .listing order known
  allowed := fun _ decl => ¬ Contested classes decl
  record := fun table _ => table
  place := .vtables
  block := fun decl => decl.vtableBlock ((known decl).getD [])
  answer := fun decl => (known decl).getD []
  reached_record := fun _ _ _ reached _ => reached
  emit_eq_ok_iff := by
    intro decl member generator next result table
    exact perform_declareVtable_listing_eq_ok_iff wellDeclared same linked table member

/-- After linking, vtables can be written exactly when no base is contested, and each has
the slots of the linking. -/
theorem perform_vtables_eq_ok_iff {answers : List (Class × List Slot)}
    (wellDeclared : WellDeclared classes) (same : order.Perm classes)
    (linked : Linked classes classes known) (table : generator.table = .listing order known) :
    generator.perform (collectGroups declareVtable (groups classes)) = (.ok answers, next) ↔
      (∀ decl ∈ classes, ¬ Contested classes decl) ∧
        answers = (groupMembers (groups classes)).map
          (fun decl => (decl, (known decl).getD [])) ∧
        next = { generator with
          draft := Draft.writeGroups .vtables
            (fun decl => decl.vtableBlock ((known decl).getD [])) (groups classes)
            generator.draft } := by
  let pass := vtablePass wellDeclared same linked
  have keeps : ∀ table decl, pass.record table decl = table := fun _ _ => rfl
  have grouped := groupMembers_groups_perm classes
  change generator.perform (collectGroups pass.emit (groups classes)) = _ ↔ _
  rw [pass.perform_collectGroups_eq_ok_iff grouped.subset table,
    Pass.admits_iff_of_keeps _ keeps, Pass.recordAll_of_keeps _ keeps]
  constructor
  · rintro ⟨_, allowed, result⟩
    exact ⟨fun decl member => allowed decl (grouped.mem_iff.mpr member), result⟩
  · rintro ⟨allowed, result⟩
    exact ⟨fun group member => check_path_of_group wellDeclared.checked member,
      fun decl member => allowed decl (grouped.mem_iff.mp member), result⟩

/-- A contested base is reported with all classes that bear its name. -/
theorem perform_declareVtable_of_contested (wellDeclared : WellDeclared classes)
    (same : order.Perm classes) (linked : Linked classes classes known)
    (table : generator.table = .listing order known) (member : decl ∈ classes)
    (contested : Contested classes decl) :
    ∃ base, decl.base = some base ∧
      generator.perform (declareVtable decl) =
        (.error (.ambiguousBase decl.qualifiedName base
          ((order.filter (·.name == base)).map Class.qualifiedName)), generator) := by
  obtain ⟨base, named, simple, absent, first, firstMem, second, secondMem, firstName, secondName,
    differ⟩ := contested
  have inOrder : decl ∈ order := same.mem_iff.mpr member
  have present : generator.table.contains decl.qualifiedName = true :=
    table ▸ ClassTable.contains_listing inOrder
  have noKey : ∀ other ∈ order, other.qualifiedName ≠ ClassTable.localKey decl base := by
    intro other otherMem found
    have otherMem := same.mem_iff.mp otherMem
    have sameKey := ClassTable.qualifiedName_eq_localKey_iff (wellDeclared.checked decl member)
      (wellDeclared.checked other otherMem) named simple
    rcases sameKey.mp found with ⟨path, name⟩
    exact absent other otherMem path name
  have bearers : ClassTable.bearers order known base = order.filter (·.name == base) := by
    apply List.filter_congr
    intro other otherMem
    rw [(linked.knows other).mpr (same.mem_iff.mp otherMem), Bool.and_true]
  have bears : ∀ other ∈ classes, other.name = base →
      other ∈ ClassTable.bearers order known base := by
    intro other otherMem name
    simp [bearers, same.mem_iff.mpr otherMem, name]
  refine ⟨base, named, perform_declareVtable_of_inheritedSlots_error present ?_⟩
  rw [table, ClassTable.inheritedSlots, named, ← bearers]
  exact ClassTable.resolveBase_of_several simple noKey (bears first firstMem firstName)
    (bears second secondMem secondName) differ

/-- The draft after all classes: three passes over the same groups. -/
def emittedDraft (classes : List Class) (slots : Class → List Slot) (draft : Draft) : Draft :=
  Draft.writeGroups .vtables (fun decl => decl.vtableBlock (slots decl)) (groups classes)
    (Draft.writeGroups .classDecls Class.bodyBlock (groups classes)
      (Draft.writeGroups .classDecls Class.forwardBlock (groups classes) draft))

/-- A unit is emitted when its classes are well declared, can be linked one after another,
and have no contested base. -/
theorem perform_emitVtables_eq_ok_iff {unit : ClassUnit} {answers : List (Class × List Slot)}
    (fresh : generator.table = {}) :
    generator.perform (emitVtables unit) = (.ok answers, next) ↔
      WellDeclared unit.classes ∧ (∀ decl ∈ unit.classes, ¬ Contested unit.classes decl) ∧
        ∃ known, Linked unit.classes unit.classes known ∧
          answers = (groupMembers (groups unit.classes)).map
            (fun decl => (decl, (known decl).getD [])) ∧
          next = { generator with
            draft := emittedDraft unit.classes (fun decl => (known decl).getD [])
              generator.draft
            table := .listing (groupMembers (groups unit.classes)) known } := by
  have same := groupMembers_groups_perm unit.classes
  simp only [emitVtables, perform_then_eq_ok_iff, perform_forwards_eq_ok_iff fresh]
  constructor
  · rintro ⟨_, ⟨wellDeclared, rfl⟩, _, links, _, bodies, vtables⟩
    rcases (perform_links_eq_ok_iff wellDeclared same List.prefix_rfl rfl).mp links with
      ⟨known, linked, rfl⟩
    obtain rfl := (perform_bodies_eq_ok_iff wellDeclared same rfl).mp bodies
    rcases (perform_vtables_eq_ok_iff wellDeclared same linked rfl).mp vtables with
      ⟨uncontested, rfl, rfl⟩
    exact ⟨wellDeclared, uncontested, known, linked, rfl, rfl⟩
  · rintro ⟨wellDeclared, uncontested, known, linked, rfl, rfl⟩
    exact ⟨_, ⟨wellDeclared, rfl⟩,
      _, (perform_links_eq_ok_iff wellDeclared same List.prefix_rfl rfl).mpr ⟨known, linked, rfl⟩,
      _, (perform_bodies_eq_ok_iff wellDeclared same rfl).mpr rfl,
      (perform_vtables_eq_ok_iff wellDeclared same linked rfl).mpr ⟨uncontested, rfl, rfl⟩⟩

/-- A header is what the draft of a successful run ends as. -/
theorem generate_eq_ok_iff {unit : ClassUnit} {text : String} :
    generator.generate unit = .ok text ↔
      ∃ answers finished, generator.perform (emitVtables unit) = (.ok answers, finished) ∧
        text = finished.finish := by
  rw [generate, emitUnit_eq_discard, discard_eq_map, perform_map]
  rcases generator.perform (emitVtables unit) with ⟨error | answers, finished⟩ <;>
    simp [Except.map, eq_comm]

/-! ## Agreement of linking and vtables -/

/-- Once a unit is declared and linked, its bodies can be written; its vtables can be
written exactly when no base is contested.  Each vtable that can be written has the slots
of the linking, and each other one is refused for the ambiguity of its base. -/
theorem vtables_agree_with_links (options : Options) (classes : List Class)
    {declared linked : Generator}
    (forwards : (start options).perform (emitGroups declareForward (groups classes)) =
      (.ok (), declared))
    (links : declared.perform (classes.forM link) = (.ok (), linked)) :
    (∃ bodied, linked.perform (emitGroups declareBody (groups classes)) = (.ok (), bodied) ∧
      bodied.table = linked.table ∧
      ((∃ finished, bodied.perform
          (emitGroups (fun decl => discard (declareVtable decl)) (groups classes)) =
            (.ok (), finished)) ↔
        ∀ decl ∈ classes, ¬ Contested classes decl)) ∧
    ∀ decl ∈ classes, ∃ slots, linked.table.slots? decl.qualifiedName = some slots ∧
      ∀ generator : Generator, generator.table = linked.table →
        (¬ Contested classes decl → ∃ next,
          generator.perform (declareVtable decl) = (.ok slots, next) ∧
            next.table = linked.table) ∧
        (Contested classes decl → ∃ base, decl.base = some base ∧
          generator.perform (declareVtable decl) =
            (.error (.ambiguousBase decl.qualifiedName base
              (((groupMembers (groups classes)).filter (·.name == base)).map
                Class.qualifiedName)), generator)) := by
  have same := groupMembers_groups_perm classes
  rcases (perform_forwards_eq_ok_iff rfl).mp forwards with ⟨wellDeclared, rfl⟩
  rcases (perform_links_eq_ok_iff wellDeclared same List.prefix_rfl rfl).mp links with
    ⟨known, allLinked, rfl⟩
  constructor
  · refine ⟨_, (perform_bodies_eq_ok_iff wellDeclared same rfl).mpr rfl, rfl, ?_⟩
    simp only [emitGroups_discard_eq, perform_discard_eq_ok_iff]
    constructor
    · rintro ⟨_, _, ran⟩
      exact ((perform_vtables_eq_ok_iff wellDeclared same allLinked rfl).mp ran).1
    · intro uncontested
      exact ⟨_, _, (perform_vtables_eq_ok_iff wellDeclared same allLinked rfl).mpr
        ⟨uncontested, rfl, rfl⟩⟩
  · intro decl member
    rcases Option.isSome_iff_exists.mp ((allLinked.knows decl).mpr member) with ⟨slots, stored⟩
    refine ⟨slots, ?_, ?_⟩
    · simp only [ClassTable.slots?, ClassTable.find?_listing (wellDeclared.perm same)
        (same.mem_iff.mpr member)]
      exact stored
    · intro generator table
      constructor
      · intro uncontested
        refine ⟨_, (perform_declareVtable_listing_eq_ok_iff wellDeclared same allLinked table
          member).mpr ⟨uncontested, by simp [stored], rfl⟩, table⟩
      · exact perform_declareVtable_of_contested wellDeclared same allLinked table member

/-- A unit whose groups mix the order of its classes: `x.A`, `z.B`, `x.C`. -/
def interleavedClasses : List Class :=
  [{ name := "A", path := ⟨["x"]⟩, methods := [{ returnType := "int", name := "size" }] },
    { name := "B", path := ⟨["z"]⟩, base := some "A",
      methods := [{ returnType := "int", name := "size", isOverride := true }] },
    { name := "C", path := ⟨["x"]⟩, base := some "z.B" }]

theorem vtables_agree_with_links_interleaved :
    ∃ declared linked bodied finished : Generator,
      (start {}).perform (emitGroups declareForward (groups interleavedClasses)) =
        (.ok (), declared) ∧
      declared.perform (interleavedClasses.forM link) = (.ok (), linked) ∧
      linked.perform (emitGroups declareBody (groups interleavedClasses)) = (.ok (), bodied) ∧
      bodied.perform (emitGroups (fun decl => discard (declareVtable decl))
        (groups interleavedClasses)) = (.ok (), finished) := by
  let declared := ((start {}).perform (emitGroups declareForward (groups interleavedClasses))).2
  let linked := (declared.perform (interleavedClasses.forM link)).2
  have forwards : (start {}).perform (emitGroups declareForward (groups interleavedClasses)) =
      (.ok (), declared) := Prod.ext (by decide +kernel) rfl
  have links : declared.perform (interleavedClasses.forM link) = (.ok (), linked) :=
    Prod.ext (by decide +kernel) rfl
  rcases vtables_agree_with_links {} interleavedClasses forwards links with
    ⟨⟨bodied, bodies, _, vtables⟩, _⟩
  rcases vtables.mpr (by decide +kernel) with ⟨finished, ran⟩
  exact ⟨declared, linked, bodied, finished, forwards, links, bodies, ran⟩

/-- The base of `z.B` is `x.A` while the unit is linked; `y.A` comes later. -/
def contestedClasses : List Class :=
  [{ name := "A", path := ⟨["x"]⟩ }, { name := "B", path := ⟨["z"]⟩, base := some "A" },
    { name := "A", path := ⟨["y"]⟩ }]

/-- Linking does not promise vtables: here everything before them succeeds. -/
theorem linked_without_vtables :
    ((start {}).perform (do
      emitGroups declareForward (groups contestedClasses)
      contestedClasses.forM link
      emitGroups declareBody (groups contestedClasses))).1 = .ok () ∧
    ((start {}).perform (emitUnit ⟨contestedClasses⟩)).1 =
      .error (.ambiguousBase "z.B" "A" ["x.A", "y.A"]) := by
  decide +kernel

end Generator

/-- The slots in the vtable of each class, in the order of the vtables. -/
def ClassUnit.vtables (unit : ClassUnit) (options : Options) :
    Except GenError (List (Class × List Slot)) :=
  ((Generator.start options).perform (Generator.emitVtables unit)).1

namespace ClassUnit

variable {unit : ClassUnit} {options : Options}

/-- When a unit has a header, and what the header is. -/
theorem header_eq_ok_iff {text : String} :
    unit.header options = .ok text ↔
      WellDeclared unit.classes ∧ (∀ decl ∈ unit.classes, ¬ Contested unit.classes decl) ∧
        ∃ known, Linked unit.classes unit.classes known ∧
          text = { Generator.start options with
            draft := Generator.emittedDraft unit.classes (fun decl => (known decl).getD [])
              (Generator.start options).draft : Generator }.finish := by
  have fresh : (Generator.start options).table = {} := rfl
  rw [header, Generator.generate_eq_ok_iff]
  simp only [Generator.perform_emitVtables_eq_ok_iff fresh]
  constructor
  · rintro ⟨_, _, ⟨wellDeclared, uncontested, known, linked, rfl, rfl⟩, rfl⟩
    exact ⟨wellDeclared, uncontested, known, linked, rfl⟩
  · rintro ⟨wellDeclared, uncontested, known, linked, rfl⟩
    exact ⟨_, _, ⟨wellDeclared, uncontested, known, linked, rfl, rfl⟩, rfl⟩

/-- The vtables of a unit that has a header hold the slots of the linking. -/
theorem vtables_of_linked {known : Class → Option (List Slot)}
    (wellDeclared : WellDeclared unit.classes)
    (uncontested : ∀ decl ∈ unit.classes, ¬ Contested unit.classes decl)
    (linked : Linked unit.classes unit.classes known) :
    unit.vtables options =
      .ok ((Generator.byNamespace unit.classes).map fun decl => (decl, (known decl).getD [])) := by
  have fresh : (Generator.start options).table = {} := rfl
  rw [vtables, (Generator.perform_emitVtables_eq_ok_iff fresh).mpr
    ⟨wellDeclared, uncontested, known, linked, rfl, rfl⟩, Generator.groupMembers_groups]

end ClassUnit

end VtableHeader
