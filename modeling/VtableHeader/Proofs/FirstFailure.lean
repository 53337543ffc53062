import VtableHeader.Proofs.CheckedMembers
import VtableHeader.Proofs.Passes

/-!
# The first failure

A sequence of actions stops at the first one that fails.  Its error is then that of one action,
met in the state that the successful actions before it leave.  The laws of this module find that
action: in a sequence, in a list, and in the groups of a unit.  In groups, the state before the
failing class is the one after a shorter pass, over the classes that stand before it; so what is
known of passes that succeed says which state this is.
-/

namespace VtableHeader.Generator

variable {generator : Generator} {error : GenError}

/-- A sequence fails when its first part does, or else the second from where the first ends. -/
theorem perform_bind_eq_error_iff {α β : Type} {first : Action α} {second : α → Action β} :
    (generator.perform (first >>= second)).1 = .error error ↔
      (generator.perform first).1 = .error error ∨
        ∃ answer middle, generator.perform first = (.ok answer, middle) ∧
          (middle.perform (second answer)).1 = .error error := by
  rw [perform_bind]
  rcases generator.perform first with ⟨other | answer, middle⟩
  · simp
  · constructor
    · intro failed
      exact .inr ⟨answer, middle, rfl, failed⟩
    · rintro (impossible | ⟨_, _, same, failed⟩)
      · cases impossible
      · cases same
        exact failed

/-- The same for a first part that answers nothing. -/
theorem perform_then_eq_error_iff {β : Type} {first : Action Unit} {second : Action β} :
    (generator.perform (first >>= fun _ => second)).1 = .error error ↔
      (generator.perform first).1 = .error error ∨
        ∃ middle, generator.perform first = (.ok (), middle) ∧
          (middle.perform second).1 = .error error := by
  rw [perform_bind_eq_error_iff]
  constructor
  · rintro (failed | ⟨⟨⟩, middle, ran, failed⟩)
    · exact .inl failed
    · exact .inr ⟨middle, ran, failed⟩
  · rintro (failed | ⟨middle, ran, failed⟩)
    · exact .inl failed
    · exact .inr ⟨(), middle, ran, failed⟩

theorem perform_require_bind_eq_error_iff {α β : Type} {result : Except GenError α}
    {second : α → Action β} :
    (generator.perform (require result >>= second)).1 = .error error ↔
      result = .error error ∨
        ∃ value, result = .ok value ∧ (generator.perform (second value)).1 = .error error := by
  rw [perform_bind_eq_error_iff, perform_require]
  constructor
  · rintro (failed | ⟨value, _, same, failed⟩)
    · exact .inl failed
    · cases same
      exact .inr ⟨value, rfl, failed⟩
  · rintro (failed | ⟨value, rfl, failed⟩)
    · exact .inl failed
    · exact .inr ⟨value, generator, rfl, failed⟩

/-- A list of actions fails with the error of the first one that fails. -/
theorem perform_forM_eq_error_iff {α : Type} {items : List α} {action : α → Action Unit} :
    (generator.perform (items.forM action)).1 = .error error ↔
      ∃ before item after middle, items = before ++ item :: after ∧
        generator.perform (before.forM action) = (.ok (), middle) ∧
        (middle.perform (action item)).1 = .error error := by
  induction items generalizing generator with
  | nil =>
      change (Except.ok () : Except GenError Unit) = .error error ↔ _
      simp
  | cons first rest ih =>
      change (generator.perform (action first >>= fun _ => rest.forM action)).1 = _ ↔ _
      rw [perform_then_eq_error_iff]
      constructor
      · rintro (failed | ⟨next, ran, failed⟩)
        · exact ⟨[], first, rest, generator, rfl, rfl, failed⟩
        · rcases ih.mp failed with ⟨before, item, after, middle, rfl, earlier, failed⟩
          exact ⟨first :: before, item, after, middle, rfl,
            perform_then_eq_ok_iff.mpr ⟨next, ran, earlier⟩, failed⟩
      · rintro ⟨before, item, after, middle, split, earlier, failed⟩
        cases before with
        | nil =>
            cases split
            cases earlier
            exact .inl failed
        | cons head tail =>
            cases split
            rcases perform_then_eq_ok_iff.mp earlier with ⟨next, ran, earlier⟩
            exact .inr ⟨next, ran, ih.mpr ⟨tail, item, after, middle, rfl, earlier, failed⟩⟩

/-- A namespace is refused for a segment that is not an identifier. -/
theorem perform_enterNamespace_eq_error_iff {path : NamespacePath} :
    (generator.perform (enterNamespace path)).1 = .error error ↔ path.check = .error error := by
  cases checked : path.check with
  | ok answer =>
      have entered : generator.perform (enterNamespace path) =
          (.ok (), { generator with draft := generator.draft.movedTo path.segments }) :=
        perform_enterNamespace_eq_ok_iff.mpr ⟨checked, rfl⟩
      simp [entered]
  | error other =>
      have refused : generator.draft.enterNamespace path = .error other := by
        have inside : path.isRoot = false := by
          cases global : path.isRoot with
          | false => rfl
          | true =>
              rw [NamespacePath.isRoot_iff.mp global] at checked
              cases checked
        simp only [Draft.enterNamespace, Draft.openNamespace, inside, checked]
        rfl
      rw [enterNamespace, perform_current_bind, perform_require_bind_eq_error_iff, refused]
      simp

/-- A group fails when its namespace is refused, or else one of its classes after others of the
group have been emitted. -/
theorem perform_emitGroup_eq_error_iff {emit : Class → Action Unit} {path : NamespacePath}
    {members : List Class} :
    (generator.perform (emitGroup emit (path, members))).1 = .error error ↔
      path.check = .error error ∨
        ∃ before decl after middle, members = before ++ decl :: after ∧
          generator.perform (emitGroup emit (path, before)) = (.ok (), middle) ∧
          (middle.perform (emit decl)).1 = .error error := by
  simp only [emitGroup, perform_onDraft_bind, perform_then_eq_error_iff, perform_then_eq_ok_iff,
    perform_enterNamespace_eq_error_iff, perform_forM_eq_error_iff]
  constructor
  · rintro (refused | ⟨entered, ran, before, decl, after, middle, split, earlier, failed⟩)
    · exact .inl refused
    · exact .inr ⟨before, decl, after, middle, split, ⟨entered, ran, earlier⟩, failed⟩
  · rintro (refused | ⟨before, decl, after, middle, split, ⟨entered, ran, earlier⟩, failed⟩)
    · exact .inl refused
    · exact .inr ⟨entered, ran, before, decl, after, middle, split, earlier, failed⟩

/-- A pass over groups fails when a namespace is refused, or else one class does: its namespace
has been entered then, after a pass over the classes before it. -/
theorem exists_of_perform_emitGroups_eq_error {emit : Class → Action Unit}
    {groups : List (NamespacePath × List Class)}
    (failed : (generator.perform (emitGroups emit groups)).1 = .error error) :
    (∃ group ∈ groups, group.1.check = .error error) ∨
      ∃ earlier decl after middle,
        groupMembers groups = groupMembers earlier ++ decl :: after ∧
        (∃ group ∈ groups, decl ∈ group.2 ∧ group.1.check = .ok ()) ∧
        generator.perform (emitGroups emit earlier) = (.ok (), middle) ∧
        (middle.perform (emit decl)).1 = .error error := by
  rcases perform_forM_eq_error_iff.mp failed with
    ⟨before, ⟨path, members⟩, after, reached, rfl, earlier, failed⟩
  rcases perform_emitGroup_eq_error_iff.mp failed with
    refused | ⟨done, decl, rest, middle, rfl, begun, failed⟩
  · exact .inl ⟨(path, members), by simp, refused⟩
  · refine .inr ⟨before ++ [(path, done)], decl, rest ++ groupMembers after, middle, ?_, ?_, ?_,
      failed⟩
    · simp [groupMembers]
    · rw [emitGroup, perform_onDraft_bind, perform_then_eq_ok_iff] at begun
      rcases begun with ⟨entered, ran, _⟩
      exact ⟨(path, done ++ decl :: rest), by simp, by simp,
        (perform_enterNamespace_eq_ok_iff.mp ran).1⟩
    · have parts : emitGroups emit (before ++ [(path, done)]) =
          emitGroups emit before >>= fun _ => emitGroup emit (path, done) := by
        change forM (before ++ [(path, done)]) (emitGroup emit) = forM before (emitGroup emit) >>= _
        simp
      rw [parts]
      exact perform_then_eq_ok_iff.mpr ⟨reached, earlier, begun⟩

end VtableHeader.Generator
