import VtableHeader.Proofs.Success

/-!
# Effects of actions

An action changes a generator in several places and may fail between them.  Three kinds of
statement about actions recur, and the laws for putting each of them together are given here.
`Unspoiled` says that a failure leaves the generator as it was found.  `Leads` relates the
generator that is found to the one that is left behind, whether the action succeeds or fails.
`Allows` keeps an invariant while the action succeeds and restricts how it may fail.
-/

namespace VtableHeader.Generator

variable {α β : Type} {generator next : Generator}

/-- If the action fails, it leaves the generator as it was. -/
def Unspoiled (generator : Generator) (action : Action α) : Prop :=
  ∀ error next, generator.perform action = (.error error, next) → next = generator

/-- Every generator is related to the one that the action leaves behind. -/
def Leads (relation : Generator → Generator → Prop) (action : Action α) : Prop :=
  ∀ generator, relation generator (generator.perform action).2

/-- The action keeps the invariant where it succeeds, and fails only with some errors. -/
def Allows (invariant : Generator → Prop) (excuse : GenError → Prop) (action : Action α) : Prop :=
  ∀ generator, invariant generator →
    (∀ answer next, generator.perform action = (.ok answer, next) → invariant next) ∧
      ∀ error next, generator.perform action = (.error error, next) → excuse error

/-- What is made of the answer does not change the generator. -/
theorem snd_perform_bind_pure (action : Action α) (change : α → β) :
    (generator.perform (action >>= fun answer => pure (change answer))).2 =
      (generator.perform action).2 := by
  rw [← map_eq_pure_bind, perform_map]

theorem unspoiled_of_ok {action : Action α} {answer : α}
    (succeeds : generator.perform action = (.ok answer, next)) : Unspoiled generator action := by
  intro error other failed
  rw [succeeds] at failed
  cases failed

/-- After a check or a computation only its success needs to be considered. -/
theorem unspoiled_require_bind {result : Except GenError α} {rest : α → Action β}
    (continues : ∀ value, result = .ok value → Unspoiled generator (rest value)) :
    Unspoiled generator (require result >>= rest) := by
  intro error next failed
  rw [perform_bind, perform_require] at failed
  cases result with
  | error other => exact (congrArg Prod.snd failed).symm
  | ok value => exact continues value rfl error next failed

theorem unspoiled_current_bind {rest : Generator → Action β}
    (continues : Unspoiled generator (rest generator)) :
    Unspoiled generator (current >>= rest) := by
  intro error next failed
  rw [perform_current_bind] at failed
  exact continues error next failed

/-- What is made of the answer cannot fail. -/
theorem Unspoiled.bind_pure {action : Action α} (unspoiled : Unspoiled generator action)
    (change : α → β) : Unspoiled generator (action >>= fun answer => pure (change answer)) := by
  intro error next failed
  rw [perform_bind] at failed
  cases outcome : generator.perform action with
  | mk result middle =>
      rw [outcome] at failed
      cases result with
      | ok answer => cases failed
      | error other =>
          cases failed
          exact unspoiled error next outcome

/-! ## Relations along an action -/

section Leads

variable {relation : Generator → Generator → Prop}

/-- Where failures change nothing, only successes have to be related. -/
theorem leads_of_unspoiled {action : Action α} (refl : ∀ generator, relation generator generator)
    (unspoiled : ∀ generator, Unspoiled generator action)
    (succeeds : ∀ generator answer next,
      generator.perform action = (.ok answer, next) → relation generator next) :
    Leads relation action := by
  intro generator
  cases outcome : generator.perform action with
  | mk result next =>
      cases result with
      | ok answer => exact succeeds generator answer next outcome
      | error error =>
          rw [unspoiled generator error next outcome]
          exact refl generator

theorem Leads.map {action : Action α} (leads : Leads relation action) (change : α → β) :
    Leads relation (change <$> action) := by
  intro generator
  rw [perform_map]
  exact leads generator

variable (trans : ∀ first second third : Generator,
  relation first second → relation second third → relation first third)

include trans

theorem Leads.bind {first : Action α} {second : α → Action β} (begins : Leads relation first)
    (continues : ∀ answer, Leads relation (second answer)) :
    Leads relation (first >>= second) := by
  intro generator
  rw [perform_bind]
  have reached := begins generator
  cases outcome : generator.perform first with
  | mk result middle =>
      rw [outcome] at reached
      cases result with
      | error error => exact reached
      | ok answer => exact trans _ _ _ reached (continues answer middle)

theorem leads_forM {items : List α} {action : α → Action Unit}
    (refl : ∀ generator, relation generator generator)
    (each : ∀ item ∈ items, Leads relation (action item)) :
    Leads relation (items.forM action) := by
  induction items with
  | nil => exact refl
  | cons item rest ih =>
      rcases List.forall_mem_cons.mp each with ⟨here, others⟩
      exact here.bind trans fun _ => ih others

/-- A pass over groups flushes, enters namespaces and emits classes. -/
theorem leads_emitGroups {emit : Class → Action Unit}
    {groups : List (NamespacePath × List Class)} (refl : ∀ generator, relation generator generator)
    (flushes : Leads relation (onDraft Draft.flush))
    (enters : ∀ path, Leads relation (enterNamespace path))
    (each : ∀ decl, Leads relation (emit decl)) : Leads relation (emitGroups emit groups) := by
  apply leads_forM trans refl
  rintro ⟨path, classes⟩ _
  apply flushes.bind trans
  intro _
  apply (enters path).bind trans
  intro _
  apply leads_forM trans refl
  intro decl _
  exact each decl

end Leads

section Allows

variable {invariant : Generator → Prop} {excuse : GenError → Prop}

theorem allows_of_outcome {action : Action α}
    (outcome : ∀ generator, invariant generator →
      (∃ answer next, generator.perform action = (.ok answer, next) ∧ invariant next) ∨
        ∃ error next, generator.perform action = (.error error, next) ∧ excuse error) :
    Allows invariant excuse action := by
  intro generator holds
  rcases outcome generator holds with ⟨_, _, ran, after⟩ | ⟨_, _, ran, fine⟩
  · rw [ran]
    constructor
    · intro _ _ done
      cases done
      exact after
    · intro _ _ failed
      cases failed
  · rw [ran]
    constructor
    · intro _ _ done
      cases done
    · intro _ _ failed
      cases failed
      exact fine

theorem allows_pure (answer : α) : Allows invariant excuse (pure answer : Action α) :=
  allows_of_outcome fun generator holds => .inl ⟨answer, generator, rfl, holds⟩

theorem allows_onDraft {change : Draft → Draft}
    (keeps : ∀ generator, invariant generator →
      invariant { generator with draft := change generator.draft }) :
    Allows invariant excuse (onDraft change) :=
  allows_of_outcome fun generator holds => .inl ⟨(), _, rfl, keeps generator holds⟩

theorem Allows.bind {first : Action α} {second : α → Action β}
    (begins : Allows invariant excuse first)
    (continues : ∀ answer, Allows invariant excuse (second answer)) :
    Allows invariant excuse (first >>= second) := by
  intro generator holds
  rw [perform_bind]
  cases outcome : generator.perform first with
  | mk result middle =>
      cases result with
      | ok answer =>
          have reached := (begins generator holds).1 answer middle outcome
          exact continues answer middle reached
      | error error =>
          constructor
          · intro _ _ done
            cases done
          · intro _ _ failed
            cases failed
            exact (begins generator holds).2 error middle outcome

theorem Allows.map {action : Action α} (allows : Allows invariant excuse action) (change : α → β) :
    Allows invariant excuse (change <$> action) := by
  rw [map_eq_pure_bind]
  exact allows.bind fun answer => allows_pure (change answer)

theorem allows_forM {items : List α} {action : α → Action Unit}
    (each : ∀ item ∈ items, Allows invariant excuse (action item)) :
    Allows invariant excuse (items.forM action) := by
  induction items with
  | nil => exact allows_pure ()
  | cons item rest ih =>
      rcases List.forall_mem_cons.mp each with ⟨here, others⟩
      exact here.bind fun _ => ih others

end Allows

end VtableHeader.Generator
