import VtableHeader.Proofs.ClassListing
import VtableHeader.Proofs.FailedSteps

/-!
# Where declared classes come from

A body or a vtable is written for a class whose dotted name is in the class table, and a dotted
name enters the table only when a class of that name is declared, by a step of its own or within
a whole unit.  Every name in the table is traced back to such a declaration, first over one step
and then over a run.

Only declarations check the names of a class.  A class that is passed to another step may have
dots in its names, and then its dotted name can be that of a declared class in another namespace:
`x.A` in no namespace passes for `A` in `x`.  What the earlier declaration and the later class
have in common is exactly the sequence of the pieces between dots.
-/

namespace VtableHeader

namespace Generator

variable {generator : Generator} {key : String}

/-- A step declares a class: it asks for this alone, or it is a unit whose forward declarations
succeed up to and including the class. -/
def Forwards (generator : Generator) : Step → Class → Prop
  | .forward asked, decl =>
      asked = decl ∧ ∃ next, generator.perform (declareForward decl) = (.ok (), next)
  | .wholeUnit unit, decl =>
      ∃ before path earlier later after,
        groups unit.classes = before ++ (path, earlier ++ decl :: later) :: after ∧
        ∃ next, generator.perform
          (emitGroups declareForward (before ++ [(path, earlier ++ [decl])])) = (.ok (), next)
  | _, _ => False

/-- A new name in the table after classes are declared one after another is that of one of them,
and the declarations succeed up to this one. -/
theorem exists_declared_of_contains {classes : List Class}
    (present : (generator.perform (classes.forM declareForward)).2.table.contains key = true)
    (new : generator.table.contains key = false) :
    ∃ earlier decl later, classes = earlier ++ decl :: later ∧ decl.qualifiedName = key ∧
      decl.check = .ok () ∧
      ∃ next, generator.perform ((earlier ++ [decl]).forM declareForward) = (.ok (), next) := by
  induction classes generalizing generator with
  | nil =>
      change generator.table.contains key = true at present
      simp [new] at present
  | cons decl rest ih =>
      change (generator.perform (declareForward decl >>= fun _ =>
        rest.forM declareForward)).2.table.contains key = true at present
      rw [perform_bind] at present
      cases outcome : generator.perform (declareForward decl) with
      | mk result next =>
          rw [outcome] at present
          cases result with
          | error error =>
              rw [unspoiled_declareForward decl error next outcome] at present
              simp [new] at present
          | ok answer =>
              rcases perform_declareForward_eq_ok_iff.mp outcome with ⟨checked, _, rfl⟩
              by_cases own : decl.qualifiedName = key
              · exact ⟨[], decl, rest, rfl, own, checked, _,
                  perform_then_eq_ok_iff.mpr ⟨_, outcome, rfl⟩⟩
              · have newAfter : (generator.table.insert decl).contains key = false := by
                  rw [← Bool.not_eq_true, ClassTable.contains_insert_iff, not_or,
                    Bool.not_eq_true]
                  exact ⟨new, own⟩
                rcases ih present newAfter with
                  ⟨earlier, found, later, rfl, named, foundChecked, last, ran⟩
                exact ⟨decl :: earlier, found, later, rfl, named, foundChecked, last,
                  perform_then_eq_ok_iff.mpr ⟨_, outcome, ran⟩⟩

/-- The same for one group. -/
theorem exists_declared_of_contains_group {path : NamespacePath} {classes : List Class}
    (present : (generator.perform
      (emitGroup declareForward (path, classes))).2.table.contains key = true)
    (new : generator.table.contains key = false) :
    ∃ earlier decl later, classes = earlier ++ decl :: later ∧ decl.qualifiedName = key ∧
      decl.check = .ok () ∧
      ∃ next, generator.perform (emitGroup declareForward (path, earlier ++ [decl])) =
        (.ok (), next) := by
  rw [emitGroup, perform_onDraft_bind, perform_bind] at present
  cases outcome : Generator.perform { generator with draft := generator.draft.flush }
      (enterNamespace path) with
  | mk result entered =>
      rw [outcome] at present
      cases result with
      | error error =>
          rw [unspoiled_enterNamespace path error entered outcome] at present
          simp [new] at present
      | ok answer =>
          rcases perform_enterNamespace_eq_ok_iff.mp outcome with ⟨_, rfl⟩
          rcases exists_declared_of_contains present new with
            ⟨earlier, decl, later, split, named, checked, next, ran⟩
          have whole : generator.perform (emitGroup declareForward (path, earlier ++ [decl])) =
              (.ok (), next) := by
            rw [emitGroup, perform_onDraft_bind]
            exact perform_then_eq_ok_iff.mpr ⟨_, outcome, ran⟩
          exact ⟨earlier, decl, later, split, named, checked, next, whole⟩

/-- The same for all groups. -/
theorem exists_declared_of_contains_groups {groups : List (NamespacePath × List Class)}
    (present : (generator.perform (emitGroups declareForward groups)).2.table.contains key = true)
    (new : generator.table.contains key = false) :
    ∃ before path earlier decl later after,
      groups = before ++ (path, earlier ++ decl :: later) :: after ∧ decl.qualifiedName = key ∧
      decl.check = .ok () ∧
      ∃ next, generator.perform
        (emitGroups declareForward (before ++ [(path, earlier ++ [decl])])) = (.ok (), next) := by
  induction groups generalizing generator with
  | nil =>
      change generator.table.contains key = true at present
      simp [new] at present
  | cons group rest ih =>
      rcases group with ⟨path, classes⟩
      change (generator.perform (emitGroup declareForward (path, classes) >>= fun _ =>
        emitGroups declareForward rest)).2.table.contains key = true at present
      by_cases here : (generator.perform
          (emitGroup declareForward (path, classes))).2.table.contains key = true
      · rcases exists_declared_of_contains_group here new with
          ⟨earlier, decl, later, rfl, named, checked, next, ran⟩
        exact ⟨[], path, earlier, decl, later, rest, rfl, named, checked, next,
          perform_then_eq_ok_iff.mpr ⟨next, ran, rfl⟩⟩
      · rw [Bool.not_eq_true] at here
        rw [perform_bind] at present
        cases outcome : generator.perform (emitGroup declareForward (path, classes)) with
        | mk result middle =>
            rw [outcome] at present here
            cases result with
            | error error => simp [here] at present
            | ok answer =>
                rcases ih present here with
                  ⟨before, later, earlier, decl, others, after, rfl, named, checked, next, ran⟩
                exact ⟨(path, classes) :: before, later, earlier, decl, others, after, rfl, named,
                  checked, next, perform_then_eq_ok_iff.mpr ⟨middle, outcome, ran⟩⟩

/-! ## Steps that declare nothing -/

/-- The same dotted names are declared. -/
def SameKeys (first second : Generator) : Prop :=
  ∀ key, second.table.contains key = true ↔ first.table.contains key = true

theorem sameKeys_refl (generator : Generator) : SameKeys generator generator :=
  fun _ => Iff.rfl

theorem SameKeys.trans (first second third : Generator) (begins : SameKeys first second)
    (continues : SameKeys second third) : SameKeys first third :=
  fun key => (continues key).trans (begins key)

theorem sameKeys_openNamespace (path : NamespacePath) : Leads SameKeys (openNamespace path) := by
  apply leads_of_unspoiled sameKeys_refl fun _ => unspoiled_openNamespace path
  intro generator _ next opened
  rcases perform_openNamespace_eq_ok_iff.mp opened with ⟨_, rfl⟩
  exact sameKeys_refl generator

theorem sameKeys_enterNamespace (path : NamespacePath) :
    Leads SameKeys (enterNamespace path) := by
  apply leads_of_unspoiled sameKeys_refl fun _ => unspoiled_enterNamespace path
  intro generator _ next entered
  rcases perform_enterNamespace_eq_ok_iff.mp entered with ⟨_, rfl⟩
  exact sameKeys_refl generator

theorem sameKeys_link (decl : Class) : Leads SameKeys (link decl) := by
  apply leads_of_unspoiled sameKeys_refl fun _ => unspoiled_link decl
  intro generator _ next linked
  rcases perform_link_eq_ok_iff.mp linked with ⟨_, slots, _, rfl⟩
  exact fun key => ClassTable.contains_setSlots_iff

theorem sameKeys_declareBody (decl : Class) : Leads SameKeys (declareBody decl) := by
  apply leads_of_unspoiled sameKeys_refl fun _ => unspoiled_declareBody decl
  intro generator _ next written
  rcases perform_declareBody_eq_ok_iff.mp written with ⟨_, rfl⟩
  exact sameKeys_refl generator

theorem sameKeys_declareVtable (decl : Class) : Leads SameKeys (declareVtable decl) := by
  apply leads_of_unspoiled sameKeys_refl fun _ => unspoiled_declareVtable decl
  intro generator _ next written
  rcases perform_declareVtable_eq_ok_iff.mp written with ⟨_, _, rfl⟩
  exact fun key => ClassTable.contains_setSlots_iff

theorem sameKeys_emitGroups {emit : Class → Action Unit}
    (each : ∀ decl, Leads SameKeys (emit decl)) (groups : List (NamespacePath × List Class)) :
    Leads SameKeys (emitGroups emit groups) :=
  leads_emitGroups SameKeys.trans sameKeys_refl sameKeys_refl sameKeys_enterNamespace each

/-- After its forward declarations a unit declares nothing more. -/
theorem sameKeys_after_forwards (unit : ClassUnit) :
    Leads SameKeys (do
      unit.classes.forM link
      emitGroups declareBody (groups unit.classes)
      emitGroups (fun decl => discard (declareVtable decl)) (groups unit.classes)) := by
  apply (leads_forM SameKeys.trans sameKeys_refl fun decl _ => sameKeys_link decl).bind
    SameKeys.trans
  intro _
  apply (sameKeys_emitGroups sameKeys_declareBody _).bind SameKeys.trans
  intro _
  apply sameKeys_emitGroups
  intro decl
  exact (sameKeys_declareVtable decl).map _

/-- A dotted name that a step adds to the table is that of a checked class which it declares. -/
theorem exists_forwards_of_contains {step : Step}
    (present : (generator.after step).table.contains key = true)
    (new : generator.table.contains key = false) :
    ∃ decl, Forwards generator step decl ∧ decl.qualifiedName = key ∧ decl.check = .ok () := by
  have differs : ¬ SameKeys generator (generator.after step) := by
    intro same
    rw [same key, new] at present
    contradiction
  cases step with
  | openNamespace path =>
      rw [after, Step.action, snd_perform_bind_pure] at differs
      exact absurd (sameKeys_openNamespace path generator) differs
  | closeAll => exact absurd (sameKeys_refl generator) differs
  | forward decl =>
      rw [after, Step.action, snd_perform_bind_pure] at present
      cases outcome : generator.perform (declareForward decl) with
      | mk result next =>
          rw [outcome] at present
          cases result with
          | error error =>
              rw [unspoiled_declareForward decl error next outcome, new] at present
              contradiction
          | ok answer =>
              rcases perform_declareForward_eq_ok_iff.mp outcome with ⟨checked, _, rfl⟩
              rcases ClassTable.contains_insert_iff.mp present with old | own
              · rw [new] at old
                contradiction
              · exact ⟨decl, ⟨rfl, _, outcome⟩, own, checked⟩
  | body decl =>
      rw [after, Step.action, snd_perform_bind_pure] at differs
      exact absurd (sameKeys_declareBody decl generator) differs
  | vtable decl =>
      rw [after, Step.action, snd_perform_bind_pure] at differs
      exact absurd (sameKeys_declareVtable decl generator) differs
  | wholeUnit unit =>
      rw [after, Step.action, snd_perform_bind_pure, emitUnit, perform_bind] at present
      have declared : (generator.perform
          (emitGroups declareForward (groups unit.classes))).2.table.contains key = true := by
        cases outcome : generator.perform (emitGroups declareForward (groups unit.classes)) with
        | mk result next =>
            rw [outcome] at present
            cases result with
            | error error => exact present
            | ok answer => exact (sameKeys_after_forwards unit next key).mp present
      rcases exists_declared_of_contains_groups declared new with
        ⟨before, path, earlier, decl, later, after, split, named, checked, ran⟩
      exact ⟨decl, ⟨before, path, earlier, later, after, split, ran⟩, named, checked⟩

/-- Every dotted name that a run adds to the table was declared by one of its steps. -/
theorem exists_forwards_of_contains_afterAll {steps : List Step}
    (present : (generator.afterAll steps).table.contains key = true)
    (new : generator.table.contains key = false) :
    ∃ before step after decl, steps = before ++ step :: after ∧
      Forwards (generator.afterAll before) step decl ∧ decl.qualifiedName = key ∧
      decl.check = .ok () := by
  induction steps generalizing generator with
  | nil =>
      change generator.table.contains key = true at present
      rw [new] at present
      contradiction
  | cons step rest ih =>
      by_cases here : (generator.after step).table.contains key = true
      · rcases exists_forwards_of_contains here new with ⟨decl, forwards, named, checked⟩
        exact ⟨[], step, rest, decl, rfl, forwards, named, checked⟩
      · rw [Bool.not_eq_true] at here
        rcases ih present here with ⟨before, later, after, decl, rfl, forwards, named, checked⟩
        exact ⟨step :: before, later, after, decl, rfl, forwards, named, checked⟩

/-- A class has a body or a vtable only under a dotted name that is declared. -/
theorem contains_of_succeeds {step : Step} {decl : Class}
    (asks : step = .body decl ∨ step = .vtable decl) (succeeds : generator.succeeds step = true) :
    generator.table.contains decl.qualifiedName = true := by
  rcases exists_perform_of_succeeds succeeds with ⟨answer, next, ran⟩
  rcases asks with rfl | rfl
  · rcases perform_bind_eq_ok_iff.mp ran with ⟨_, _, written, _⟩
    exact (perform_declareBody_eq_ok_iff.mp written).1
  · rcases perform_bind_eq_ok_iff.mp ran with ⟨_, _, written, _⟩
    exact (perform_declareVtable_eq_ok_iff.mp written).1

/-- Two classes with one dotted name, of which the first has no dot in its names, are the same
class exactly when the second has none either. -/
theorem ref_eq_iff_undotted {first second : Class} (undotted : first.Undotted)
    (same : first.qualifiedName = second.qualifiedName) :
    first.ref = second.ref ↔ second.Undotted := by
  constructor
  · intro equal
    have names : first.name = second.name := congrArg ClassRef.name equal
    have paths : first.path = second.path := congrArg ClassRef.path equal
    rw [Class.Undotted, ← names, ← paths]
    exact undotted
  · intro alsoUndotted
    exact Class.ref_eq_of_qualifiedName_eq undotted alsoUndotted same

/-- A body or a vtable is written only after the declaration of a class with the same dotted name.
That class has the same name in the same namespace exactly when no name of the later class holds
a dot. -/
theorem forwarded_before_body_or_vtable (options : Options) (steps : List Step) (decl : Class)
    (step : Step) (asks : step = .body decl ∨ step = .vtable decl)
    (succeeds : ((start options).afterAll steps).succeeds step = true) :
    ∃ before earlier after forwarded, steps = before ++ earlier :: after ∧
      Forwards ((start options).afterAll before) earlier forwarded ∧
      forwarded.path.segments ++ [forwarded.name] =
        NamespacePath.splitDots decl.qualifiedName ∧
      (forwarded.ref = decl.ref ↔ decl.Undotted) := by
  have present := contains_of_succeeds asks succeeds
  rcases exists_forwards_of_contains_afterAll present rfl with
    ⟨before, earlier, after, forwarded, split, forwards, named, checked⟩
  have undotted := (Class.namesIdentified_of_check checked).undotted
  have pieces := Class.splitDots_qualifiedName undotted
  rw [named] at pieces
  exact ⟨before, earlier, after, forwarded, split, forwards, pieces.symm,
    ref_eq_iff_undotted undotted named⟩

/-- A class of the namespace `x`. -/
def classInX : Class :=
  { name := "A", path := ⟨["x"]⟩, methods := [{ returnType := "int", name := "size" }] }

/-- A class without a namespace whose name looks like the dotted name of `classInX`. -/
def dottedClass : Class :=
  { name := "x.A" }

theorem classInX_forwarded_before_vtable :
    ∃ before earlier after forwarded,
      [Step.wholeUnit ⟨[classInX]⟩, .body classInX] = before ++ earlier :: after ∧
      Forwards ((start {}).afterAll before) earlier forwarded ∧ forwarded.ref = classInX.ref := by
  rcases forwarded_before_body_or_vtable {} [.wholeUnit ⟨[classInX]⟩, .body classInX] classInX
      (.vtable classInX) (.inr rfl) (by decide +kernel) with
    ⟨before, earlier, after, forwarded, split, forwards, _, same⟩
  exact ⟨before, earlier, after, forwarded, split, forwards, same.mpr (by decide +kernel)⟩

/-- A body is written for a class that was never declared. -/
theorem dottedClass_body_without_forward :
    ((start {}).afterAll [.forward classInX]).succeeds (.body dottedClass) = true ∧
      ¬ ∃ before earlier after forwarded, [Step.forward classInX] = before ++ earlier :: after ∧
        Forwards ((start {}).afterAll before) earlier forwarded ∧
        forwarded.ref = dottedClass.ref := by
  constructor
  · decide +kernel
  · rintro ⟨before, earlier, after, forwarded, split, forwards, same⟩
    have only : earlier = .forward classInX := by
      have member : earlier ∈ [Step.forward classInX] := by
        rw [split]
        simp
      exact List.mem_singleton.mp member
    subst only
    rcases forwards with ⟨rfl, _⟩
    exact absurd same (by decide)

end Generator

end VtableHeader
