import Mathlib.Data.List.Induction
import VtableHeader.Proofs.Declaring
import VtableHeader.Proofs.SlotBinding

/-!
# Linking and writing vtables

The slots of a class are computed twice: when the unit is linked, in the order of the
unit and with only the earlier classes in view, and again when its vtable is written,
in the order of the groups and with all classes in view.  `Linked` describes the
outcome of the first computation class by class.  The second computation, where it
succeeds, gives the same slots, so that writing vtables leaves the table alone; and it
succeeds exactly for the classes whose base is not contested.
-/

namespace VtableHeader

/-- The slots of `decl` when the classes `declared` are declared, those in `linked` have
slots, and `known` gives them. -/
inductive SlotsFrom (declared linked : List Class) (known : Class → Option (List Slot))
    (decl : Class) (slots : List Slot) : Prop where
  | root (rootless : decl.base = none) (effective : decl.effectiveSlots [] = .ok slots)
  | derived {base : String} {target : Class} {inherited : List Slot}
      (named : decl.base = some base) (denotes : Denotes declared linked decl base target)
      (stored : known target = some inherited)
      (effective : decl.effectiveSlots inherited = .ok slots)

/-- The known slots after linking the classes `done` one after another. -/
inductive Linked (declared : List Class) :
    List Class → (Class → Option (List Slot)) → Prop where
  | nil : Linked declared [] fun _ => none
  | snoc {done : List Class} {known : Class → Option (List Slot)} {decl : Class}
      {slots : List Slot} (before : Linked declared done known) (fresh : decl ∉ done)
      (computed : SlotsFrom declared done known decl slots) :
      Linked declared (done ++ [decl]) (Function.update known decl (some slots))

variable {declared done : List Class} {known : Class → Option (List Slot)}

theorem linked_nil_iff : Linked declared [] known ↔ known = fun _ => none := by
  constructor
  · intro linked
    generalize empty : ([] : List Class) = all at linked
    cases linked with
    | nil => rfl
    | snoc => simp at empty
  · rintro rfl
    exact .nil

/-- Linking ends with a class that the others before it make possible. -/
theorem linked_snoc_iff {decl : Class} {after : Class → Option (List Slot)} :
    Linked declared (done ++ [decl]) after ↔
      decl ∉ done ∧ ∃ known slots, Linked declared done known ∧
        SlotsFrom declared done known decl slots ∧
        after = Function.update known decl (some slots) := by
  constructor
  · intro linked
    generalize whole : done ++ [decl] = all at linked
    cases linked with
    | nil => simp at whole
    | @snoc earlier known last slots before fresh computed =>
        rcases List.append_inj' whole rfl with ⟨rfl, same⟩
        obtain rfl : decl = last := by simpa using same
        exact ⟨fresh, known, slots, before, computed, rfl⟩
  · rintro ⟨fresh, known, slots, before, computed, rfl⟩
    exact .snoc before fresh computed

/-- What is found about linked classes stays found when more slots become known. -/
theorem SlotsFrom.update {linked : List Class} {decl other : Class}
    {slots otherSlots : List Slot} (computed : SlotsFrom declared linked known decl slots)
    (fresh : other ∉ linked) :
    SlotsFrom declared linked (Function.update known other (some otherSlots)) decl slots := by
  cases computed with
  | root rootless effective => exact .root rootless effective
  | @derived base target inherited named denotes stored effective =>
      have differ : target ≠ other := by
        rintro rfl
        exact fresh denotes.mem
      refine .derived named denotes ?_ effective
      rw [Function.update_of_ne differ, stored]

namespace Linked

/-- Exactly the linked classes have slots. -/
theorem knows (linked : Linked declared done known) (decl : Class) :
    (known decl).isSome = true ↔ decl ∈ done := by
  induction linked with
  | nil => simp
  | @snoc done known last slots _ _ _ ih =>
      by_cases same : decl = last
      · simp [same]
      · rw [Function.update_of_ne same, ih]
        simp [same]

/-- Each linked class has the slots that the classes before it give. -/
theorem computed (linked : Linked declared done known) {before after : List Class}
    {decl : Class} (split : done = before ++ decl :: after) :
    ∃ slots, known decl = some slots ∧ SlotsFrom declared before known decl slots := by
  induction linked generalizing after with
  | nil => simp at split
  | @snoc done known last slots linked fresh computed ih =>
      rcases List.eq_nil_or_concat after with rfl | ⟨shorter, final, rfl⟩
      · rcases List.append_inj' split rfl with ⟨rfl, same⟩
        obtain rfl : last = decl := by simpa using same
        exact ⟨slots, by simp, computed.update fresh⟩
      · have reassociated : done ++ [last] = (before ++ decl :: shorter) ++ [final] := by
          simpa using split
        rcases List.append_inj' reassociated rfl with ⟨rfl, same⟩
        obtain rfl : last = final := by simpa using same
        rcases ih rfl with ⟨found, stored, early⟩
        have differ : decl ≠ last := by
          rintro rfl
          exact fresh (by simp)
        have notBefore : last ∉ before := fun member => fresh (by simp [member])
        refine ⟨found, ?_, early.update notBefore⟩
        rw [Function.update_of_ne differ, stored]

/-- With all classes in view, slots that can be computed are those of the linking. -/
theorem eq_of_slotsFrom {classes : List Class} {decl : Class} {slots : List Slot}
    (wellDeclared : WellDeclared classes) (linked : Linked classes classes known)
    (member : decl ∈ classes) (again : SlotsFrom classes classes known decl slots) :
    known decl = some slots := by
  rcases List.append_of_mem member with ⟨before, after, split⟩
  have earlier : before ⊆ classes := split ▸ List.subset_append_left before _
  rcases linked.computed split with ⟨found, stored, first⟩
  rw [stored]
  cases first with
  | root rootless effective =>
      cases again with
      | root _ effectiveAgain =>
          exact congrArg some (Except.ok.inj (effective.symm.trans effectiveAgain))
      | derived named => simp [rootless] at named
  | @derived base target inherited named denotes storedTarget effective =>
      cases again with
      | root rootless => simp [rootless] at named
      | @derived otherBase other otherInherited otherNamed otherDenotes storedOther
          effectiveAgain =>
          obtain rfl : base = otherBase := Option.some.inj (named.symm.trans otherNamed)
          obtain rfl := denotes.eq_of_subset wellDeclared earlier (List.Subset.refl _) otherDenotes
          obtain rfl : inherited = otherInherited :=
            Option.some.inj (storedTarget.symm.trans storedOther)
          exact congrArg some (Except.ok.inj (effective.symm.trans effectiveAgain))

/-- With all classes in view, the slots of a linked class can be computed again unless its
base is contested. -/
theorem exists_slotsFrom_iff {classes : List Class} {decl : Class}
    (linked : Linked classes classes known) (member : decl ∈ classes) :
    (∃ slots, SlotsFrom classes classes known decl slots) ↔ ¬ Contested classes decl := by
  constructor
  · rintro ⟨slots, again⟩ contested
    cases again with
    | root rootless =>
        rcases contested with ⟨base, named, _⟩
        simp [rootless] at named
    | derived named denotes => exact denotes.not_contested named contested
  · intro uncontested
    rcases List.append_of_mem member with ⟨before, after, split⟩
    have earlier : before ⊆ classes := split ▸ List.subset_append_left before _
    rcases linked.computed split with ⟨found, _, first⟩
    cases first with
    | root rootless effective => exact ⟨found, .root rootless effective⟩
    | derived named denotes stored effective =>
        exact ⟨found, .derived named (denotes.widen earlier named uncontested) stored effective⟩

/-- Each linked class has a chain of ancestors, inherits slots that are right for it, and
adds its own. -/
theorem resolved {classes : List Class} (linked : Linked classes done known)
    (wellDeclared : WellDeclared classes)
    (uncontested : ∀ decl ∈ classes, ¬ Contested classes decl) (inside : done ⊆ classes) :
    ∀ decl ∈ done, ∃ ancestors inherited slots, Ancestry classes decl ancestors ∧
      Dispatches ancestors inherited ∧ decl.effectiveSlots inherited = .ok slots ∧
      known decl = some slots := by
  induction linked with
  | nil => simp
  | @snoc done known last slots _ fresh computed ih =>
      rcases List.append_subset.mp inside with ⟨earlier, lastMem⟩
      intro decl member
      rcases List.mem_append.mp member with old | atEnd
      · rcases ih earlier decl old with
          ⟨ancestors, inherited, found, ancestry, dispatches, effective, stored⟩
        have differ : decl ≠ last := by
          rintro rfl
          exact fresh old
        exact ⟨ancestors, inherited, found, ancestry, dispatches, effective,
          by rw [Function.update_of_ne differ, stored]⟩
      · obtain rfl := List.mem_singleton.mp atEnd
        -- The base of the last class is one of the earlier, whose chain is already known.
        have stored : Function.update known decl (some slots) decl = some slots := by simp
        cases computed with
        | root rootless effective =>
            exact ⟨[], [], slots, .root rootless, .nil, effective, stored⟩
        | @derived base target inherited named denotes storedTarget effective =>
            rcases ih earlier target denotes.mem with
              ⟨ancestors, above, found, ancestry, dispatches, targetEffective, same⟩
            obtain rfl : inherited = found := Option.some.inj (storedTarget.symm.trans same)
            have declMem : decl ∈ classes := lastMem (by simp)
            have targetMem : target ∈ classes := earlier denotes.mem
            have inherits : InheritsFrom classes decl target :=
              ⟨base, named, denotes.widen earlier named (uncontested decl declMem)⟩
            exact ⟨target :: ancestors, inherited, slots, .derived inherits ancestry,
              dispatches.extend (Class.nodup_methods_of_check
                (wellDeclared.checked target targetMem)) targetEffective, effective, stored⟩

end Linked

/-! ## Linking with the table -/

/-- The slots that a class gets from a table of declared classes. -/
theorem ClassTable.slotsFor_listing_eq_ok_iff {classes order linked : List Class}
    {decl : Class} {slots : List Slot} (wellDeclared : WellDeclared classes)
    (same : order.Perm classes) (inside : linked ⊆ classes)
    (knows : ∀ decl, (known decl).isSome = true ↔ decl ∈ linked) (member : decl ∈ classes) :
    (listing order known).slotsFor decl = .ok slots ↔
      SlotsFrom classes linked known decl slots := by
  have insideOrder : linked ⊆ order := fun other otherMem => same.mem_iff.mpr (inside otherMem)
  rw [slotsFor_eq_ok_iff]
  cases named : decl.base with
  | none =>
      simp only [inheritedSlots, named, Except.ok.injEq, exists_eq_left']
      constructor
      · intro effective
        exact .root named effective
      · intro computed
        cases computed with
        | root _ effective => exact effective
        | derived other => simp [named] at other
  | some base =>
      simp only [inheritedSlots, named, resolveBase_listing_eq_ok_iff (wellDeclared.perm same)
        insideOrder knows (wellDeclared.checked decl member) named]
      constructor
      · rintro ⟨inherited, ⟨target, denotes, stored⟩, effective⟩
        exact .derived named (denotes.congr (fun _ => same.mem_iff.symm) fun _ => Iff.rfl) stored
          effective
      · intro computed
        cases computed with
        | root rootless => simp [named] at rootless
        | @derived other target inherited otherNamed denotes stored effective =>
            obtain rfl : base = other := Option.some.inj (named.symm.trans otherNamed)
            exact ⟨inherited, ⟨target,
              denotes.congr (fun _ => same.mem_iff) fun _ => Iff.rfl, stored⟩, effective⟩

namespace Generator

variable {generator next : Generator} {classes order : List Class}

theorem perform_link_listing_eq_ok_iff {decl : Class} (wellDeclared : WellDeclared classes)
    (same : order.Perm classes) (linked : Linked classes done known) (inside : done ⊆ classes)
    (table : generator.table = .listing order known) (member : decl ∈ classes) :
    generator.perform (link decl) = (.ok (), next) ↔
      ∃ slots, SlotsFrom classes done known decl slots ∧
        next = { generator with
          table := .listing order (Function.update known decl (some slots)) } := by
  have inOrder : decl ∈ order := same.mem_iff.mpr member
  have present : generator.table.contains decl.qualifiedName = true :=
    table ▸ ClassTable.contains_listing inOrder
  simp only [perform_link_eq_ok_iff, present, true_and]
  simp only [table, ClassTable.setSlots_listing (wellDeclared.perm same) inOrder,
    ClassTable.slotsFor_listing_eq_ok_iff wellDeclared same inside linked.knows member]

/-- Linking classes in the order of the unit succeeds when each gets slots from those
before it. -/
theorem perform_links_eq_ok_iff (wellDeclared : WellDeclared classes)
    (same : order.Perm classes) (initial : done <+: classes)
    (table : generator.table = .listing order fun _ => none) :
    generator.perform (done.forM link) = (.ok (), next) ↔
      ∃ known, Linked classes done known ∧
        next = { generator with table := .listing order known } := by
  -- Each class is linked with the earlier ones in view, so the list is read from its end.
  induction done using List.reverseRecOn generalizing next with
  | nil =>
      have nothing : { generator with table := .listing order fun _ => none } = generator := by
        rw [← table]
      simp only [linked_nil_iff, exists_eq_left, nothing]
      constructor
      · intro ran
        cases ran
        rfl
      · rintro rfl
        rfl
  | append_singleton done last ih =>
      rcases initial with ⟨after, split⟩
      have whole : classes = done ++ last :: after := by simp [← split]
      have earlier : done <+: classes := ⟨last :: after, whole.symm⟩
      have member : last ∈ classes := by simp [whole]
      have fresh : last ∉ done := wellDeclared.notMem_before whole
      have parts : (done ++ [last]).forM link = done.forM link >>= fun _ => link last := by
        change forM (done ++ [last]) link = forM done link >>= fun _ => link last
        simp
      rw [parts, perform_then_eq_ok_iff]
      simp only [ih earlier, linked_snoc_iff]
      constructor
      · rintro ⟨_, ⟨known, linked, rfl⟩, ran⟩
        obtain ⟨slots, computed, rfl⟩ := (perform_link_listing_eq_ok_iff wellDeclared same linked
          earlier.subset rfl member).mp ran
        exact ⟨_, ⟨fresh, known, slots, linked, computed, rfl⟩, rfl⟩
      · rintro ⟨_, ⟨_, known, slots, linked, computed, rfl⟩, rfl⟩
        refine ⟨_, ⟨known, linked, rfl⟩, ?_⟩
        exact (perform_link_listing_eq_ok_iff wellDeclared same linked earlier.subset rfl
          member).mpr ⟨slots, computed, rfl⟩

end Generator

end VtableHeader
