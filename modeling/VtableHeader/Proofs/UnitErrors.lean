import VtableHeader.Proofs.OrderlyEmission
import VtableHeader.Proofs.TableGrowth

/-!
# When a unit fails

The passes of a unit check the same things several times.  Once all classes are declared and
linked, only one check can still fail: the base of a class may have become ambiguous by the time
its vtable is written.  Whatever else is wrong with a unit is found before the first body, so that a
unit which fails for another reason leaves namespace lines, empty lines and forward declarations
behind, and these come after everything that had been written before.

This holds in every state that a generator can reach, also when earlier units and steps have left
classes in the table.  What carries over from the link pass to the later ones is that the table
only grows.
-/

namespace VtableHeader

/-- Whether an error is that of an ambiguous base. -/
def GenError.isAmbiguousBase : GenError → Bool
  | .ambiguousBase _ _ _ => true
  | _ => false

/-- The table has the slots that the class gets from an earlier state of the table. -/
def ClassTable.HasLinked (table : ClassTable) (decl : Class) : Prop :=
  ∃ (earlier : ClassTable) (slots : List Slot), earlier.Grows table ∧
    earlier.slotsFor decl = .ok slots ∧ table.Stores decl.qualifiedName slots

/-- Checked classes are in the table under distinct names, and have no slots yet. -/
structure ClassTable.Awaits (table : ClassTable) (classes : List Class) : Prop where
  checked : ∀ decl ∈ classes, decl.check = .ok ()
  distinct : (classes.map Class.qualifiedName).Nodup
  present : ∀ decl ∈ classes, table.contains decl.qualifiedName = true
  unlinked : ∀ decl ∈ classes, table.Unlinked decl.qualifiedName

namespace Generator

variable {generator next : Generator} {classes : List Class} {table : ClassTable} {decl : Class}

theorem contains_recordAll_forwardPass {members : List Class} {key : String}
    (known : table.contains key = true ∨ key ∈ members.map Class.qualifiedName) :
    ((forwardPass classes).recordAll table members).contains key = true := by
  induction members generalizing table with
  | nil => simpa [Pass.recordAll] using known
  | cons decl rest ih =>
      have knownNext : (table.insert decl).contains key = true ∨
          key ∈ rest.map Class.qualifiedName := by
        rw [ClassTable.contains_insert_iff, or_assoc, @eq_comm _ decl.qualifiedName]
        simpa only [List.map_cons, List.mem_cons] using known
      exact ih knownNext

theorem unlinked_recordAll_forwardPass {members : List Class} {key : String}
    (unlinked : table.Unlinked key) :
    ((forwardPass classes).recordAll table members).Unlinked key := by
  induction members generalizing table with
  | nil => exact unlinked
  | cons decl rest ih => exact ih (unlinked.insert decl)

/-- After their forward declarations all classes of a unit are in the table, without slots. -/
theorem awaits_of_forwards
    (forwards : generator.perform (emitGroups declareForward (groups classes)) = (.ok (), next)) :
    next.table.Awaits classes := by
  have same := groupMembers_groups_perm classes
  rcases ((forwardPass classes).perform_emitGroups_eq_ok_iff same.subset trivial).mp forwards with
    ⟨_, admits, rfl⟩
  rcases forwardPass_admits_iff.mp admits with ⟨checked, distinct, new⟩
  constructor
  · intro decl member
    exact checked decl (same.mem_iff.mpr member)
  · exact (same.map Class.qualifiedName).nodup_iff.mp distinct
  · intro decl member
    apply contains_recordAll_forwardPass
    exact .inr (List.mem_map_of_mem (same.mem_iff.mpr member))
  · intro decl member
    apply unlinked_recordAll_forwardPass
    exact ClassTable.unlinked_of_not_contains (new decl (same.mem_iff.mpr member))

/-- Linking lets the table grow, and stores for each class what it gets from the table then. -/
theorem hasLinked_of_links (distinct : (classes.map Class.qualifiedName).Nodup)
    (unlinked : ∀ decl ∈ classes, generator.table.Unlinked decl.qualifiedName)
    (links : generator.perform (classes.forM link) = (.ok (), next)) :
    generator.table.Grows next.table ∧ ∀ decl ∈ classes, next.table.HasLinked decl := by
  induction classes generalizing generator with
  | nil =>
      cases links
      exact ⟨ClassTable.grows_refl _, by simp⟩
  | cons decl rest ih =>
      rcases perform_then_eq_ok_iff.mp links with ⟨middle, first, others⟩
      rcases perform_link_eq_ok_iff.mp first with ⟨_, slots, computed, rfl⟩
      rcases List.nodup_cons.mp distinct with ⟨fresh, restDistinct⟩
      rcases List.forall_mem_cons.mp unlinked with ⟨here, restUnlinked⟩
      have begins := here.grows_setSlots slots
      have stillUnlinked : ∀ other ∈ rest, (generator.table.setSlots decl.qualifiedName
          slots).Unlinked other.qualifiedName := by
        intro other member
        apply (restUnlinked other member).setSlots
        intro same
        exact fresh (same ▸ List.mem_map_of_mem member)
      rcases ih restDistinct stillUnlinked others with ⟨continues, linked⟩
      apply And.intro (begins.trans continues)
      apply List.forall_mem_cons.mpr ⟨_, linked⟩
      exact ⟨generator.table, slots, begins.trans continues, computed,
        continues.stores (generator.table.stores_setSlots decl.qualifiedName slots)⟩

/-! ## Bodies and vtables -/

section Later

variable {excuse : GenError → Prop}

theorem allows_enterNamespace {path : NamespacePath} (checked : path.check = .ok ()) :
    Allows (·.table = table) excuse (enterNamespace path) := by
  apply allows_of_outcome
  intro generator same
  exact .inl ⟨_, _, perform_enterNamespace_eq_ok_iff.mpr ⟨checked, rfl⟩, same⟩

theorem allows_emitGroups {emit : Class → Action Unit}
    (checked : ∀ decl ∈ classes, decl.check = .ok ())
    (each : ∀ decl ∈ classes, Allows (·.table = table) excuse (emit decl)) :
    Allows (·.table = table) excuse (emitGroups emit (groups classes)) := by
  apply allows_forM
  rintro ⟨path, members⟩ grouped
  apply (allows_onDraft fun _ same => same).bind
  intro _
  apply (allows_enterNamespace (check_path_of_group checked grouped)).bind
  intro _
  apply allows_forM
  intro decl member
  exact each decl (mem_of_mem_group grouped member)

theorem allows_declareBody (present : table.contains decl.qualifiedName = true) :
    Allows (·.table = table) excuse (declareBody decl) := by
  apply allows_of_outcome
  intro generator same
  exact .inl ⟨_, _, perform_declareBody_eq_ok_iff.mpr ⟨same ▸ present, rfl⟩, same⟩

/-- The vtable of a linked class can only fail for an ambiguous base, and changes no slots. -/
theorem allows_declareVtable (present : table.contains decl.qualifiedName = true)
    (linked : table.HasLinked decl) :
    Allows (·.table = table) (·.isAmbiguousBase = true) (declareVtable decl) := by
  obtain ⟨earlier, slots, grows, computed, stores⟩ := linked
  obtain ⟨inherited, found, effective⟩ := ClassTable.slotsFor_eq_ok_iff.mp computed
  apply allows_of_outcome
  rintro generator rfl
  rcases grows.inheritedSlots found with again | ⟨base, keys, ambiguous⟩
  · have recomputed := ClassTable.slotsFor_eq_ok_iff.mpr ⟨inherited, again, effective⟩
    exact .inl ⟨slots, _, perform_declareVtable_eq_ok_iff.mpr ⟨present, recomputed, rfl⟩,
      stores.setSlots_eq⟩
  · exact .inr ⟨_, _, perform_declareVtable_of_inheritedSlots_error present ambiguous, rfl⟩

/-- After linking, a unit can only fail for an ambiguous base. -/
theorem allows_bodies_and_vtables (checked : ∀ decl ∈ classes, decl.check = .ok ())
    (present : ∀ decl ∈ classes, table.contains decl.qualifiedName = true)
    (linked : ∀ decl ∈ classes, table.HasLinked decl) :
    Allows (·.table = table) (·.isAmbiguousBase = true) (do
      emitGroups declareBody (groups classes)
      emitGroups (fun decl => discard (declareVtable decl)) (groups classes)) := by
  apply (allows_emitGroups checked fun decl member =>
    allows_declareBody (present decl member)).bind
  intro _
  apply allows_emitGroups checked
  intro decl member
  exact (allows_declareVtable (present decl member) (linked decl member)).map _

end Later

/-- Once a unit is declared and linked, only an ambiguous base can make it fail. -/
theorem isAmbiguousBase_of_linked {declared linked : Generator} {error : GenError}
    (forwards : generator.perform (emitGroups declareForward (groups classes)) =
      (.ok (), declared))
    (links : declared.perform (classes.forM link) = (.ok (), linked))
    (failed : (linked.perform (do
      emitGroups declareBody (groups classes)
      emitGroups (fun decl => discard (declareVtable decl)) (groups classes))).1 =
        .error error) : error.isAmbiguousBase = true := by
  have awaits := awaits_of_forwards forwards
  rcases hasLinked_of_links awaits.distinct awaits.unlinked links with ⟨grows, allLinked⟩
  have present : ∀ decl ∈ classes, linked.table.contains decl.qualifiedName = true := by
    intro decl member
    rw [grows.contains_eq]
    exact awaits.present decl member
  have allows := allows_bodies_and_vtables awaits.checked present allLinked
  exact (allows linked rfl).2 error _ (Prod.ext failed rfl)

/-- A unit that fails, and not for an ambiguous base, has written forward declarations only. -/
theorem extending_forwards_of_error (unit : ClassUnit) {error : GenError}
    (failed : (generator.perform (emitUnit unit)).1 = .error error)
    (unambiguous : error.isAmbiguousBase = false) :
    Extending (fun block => ∃ decl ∈ unit.classes, block = .forward decl) generator
      (generator.perform (emitUnit unit)).2 := by
  have forwards := extending_emitGroups unit.classes filling_declareForward
    (by rintro decl block rfl; rfl) generator
  rw [emitUnit, perform_bind] at failed ⊢
  cases declaring : generator.perform (emitGroups declareForward (groups unit.classes)) with
  | mk result declared =>
      rw [declaring] at failed forwards
      cases result with
      | error other => exact forwards
      | ok answer =>
          change (declared.perform _).1 = _ at failed
          change Extending _ generator (declared.perform _).2
          have links := Extending.trans _ _ _ forwards (extending_links unit.classes declared)
          rw [perform_bind] at failed ⊢
          cases linking : declared.perform (unit.classes.forM link) with
          | mk result linked =>
              rw [linking] at failed links
              cases result with
              | error other => exact links
              | ok answer =>
                  have ambiguous := isAmbiguousBase_of_linked declaring linking failed
                  simp [unambiguous] at ambiguous

/-- A unit appends pieces of its own classes to what had been written, with every block in place.
If it fails, and not for an ambiguous base, all these blocks are forward declarations. -/
theorem errors_precede_bodies (options : Options) (steps : List Step) (unit : ClassUnit) :
    let generator := (start options).afterAll steps
    let left := (generator.perform (emitUnit unit)).2
    ∃ pieces,
      left.render = generator.render ++ piecesText options.indentUnit pieces ∧
      replayAll generator.draft.scope pieces = some left.draft.scope ∧
      (∀ block ∈ blocksOf pieces, block.decl ∈ unit.classes) ∧
      ∀ error, (generator.perform (emitUnit unit)).1 = .error error →
        error.isAmbiguousBase = false →
          ∀ block ∈ blocksOf pieces, ∃ decl ∈ unit.classes, block = .forward decl := by
  intro generator left
  obtain ⟨journal, records⟩ := recorded_afterAll (start options) steps
  have shows := (shows_start options).records records
  by_cases early : ∃ error, (generator.perform (emitUnit unit)).1 = .error error ∧
      error.isAmbiguousBase = false
  · obtain ⟨error, failed, unambiguous⟩ := early
    have extending := extending_forwards_of_error unit failed unambiguous
    rcases extending.exists_render_eq shows.level shows.unit with
      ⟨pieces, written, replayed, forwards⟩
    have own : ∀ block ∈ blocksOf pieces, block.decl ∈ unit.classes := by
      intro block member
      obtain ⟨decl, declMem, rfl⟩ := forwards block member
      exact declMem
    exact ⟨pieces, written, replayed, own, fun _ _ _ => forwards⟩
  · have extending := extending_emitUnit unit generator
    rcases extending.exists_render_eq shows.level shows.unit with ⟨pieces, written, replayed, own⟩
    have late : ∀ error, (generator.perform (emitUnit unit)).1 = .error error →
        error.isAmbiguousBase = false →
          ∀ block ∈ blocksOf pieces, ∃ decl ∈ unit.classes, block = .forward decl := by
      intro error failed unambiguous
      exact absurd ⟨error, failed, unambiguous⟩ early
    exact ⟨pieces, written, replayed, own, late⟩

/-- An earlier unit, and a namespace inside that of its class. -/
def earlierSteps : List Step :=
  [.wholeUnit ⟨[{ name := "A", path := ⟨["x"]⟩ }]⟩, .openNamespace ⟨["x", "z"]⟩]

/-- A class with a base in the earlier unit, and one that comes before its base. -/
def lateBaseUnit : ClassUnit where
  classes :=
    [{ name := "C", path := ⟨["x"]⟩, base := some "A" },
      { name := "D", path := ⟨["y"]⟩, base := some "x.B" }, { name := "B", path := ⟨["x"]⟩ }]

theorem lateBaseUnit_fails_before_bodies :
    (((start {}).afterAll earlierSteps).perform (emitUnit lateBaseUnit)).1 =
        .error (.baseNotEmitted "y.D" "x.B") ∧
      ∃ pieces, (((start {}).afterAll earlierSteps).perform (emitUnit lateBaseUnit)).2.render =
          ((start {}).afterAll earlierSteps).render ++
            piecesText (Options.indentUnit {}) pieces ∧
        ∀ block ∈ blocksOf pieces, ∃ decl ∈ lateBaseUnit.classes, block = .forward decl := by
  have failed : (((start {}).afterAll earlierSteps).perform (emitUnit lateBaseUnit)).1 =
      .error (.baseNotEmitted "y.D" "x.B") := by
    decide +kernel
  rcases errors_precede_bodies {} earlierSteps lateBaseUnit with ⟨pieces, written, _, _, forwards⟩
  exact ⟨failed, pieces, written, forwards _ failed rfl⟩

end Generator

end VtableHeader
