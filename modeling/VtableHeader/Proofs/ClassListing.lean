import Mathlib.Logic.Function.Basic
import VtableHeader.Proofs.Inheritance

/-!
# The class table of declared classes

While a unit is generated, the class table holds one entry for each declared class,
and what changes is only which slots are known.  A table of this shape is the
listing of its classes under a map of known slots.  Every operation on the table
becomes an operation on that map, and looking up a base becomes what the base
denotes.
-/

namespace VtableHeader.ClassTable

section Names

variable {table : ClassTable} {key : String}

theorem contains_iff : table.contains key = true ↔ ∃ entry ∈ table.entries, entry.key = key := by
  simp [contains, find?, List.find?_isSome]

theorem contains_insert_iff {decl : Class} :
    (table.insert decl).contains key = true ↔
      table.contains key = true ∨ decl.qualifiedName = key := by
  simp only [contains_iff, insert, List.mem_append, List.mem_singleton]
  constructor
  · rintro ⟨entry, old | rfl, same⟩
    · exact .inl ⟨entry, old, same⟩
    · exact .inr same
  · rintro (⟨entry, old, same⟩ | same)
    · exact ⟨entry, .inl old, same⟩
    · exact ⟨_, .inr rfl, same⟩

theorem contains_setSlots_iff {other : String} {slots : List Slot} :
    (table.setSlots other slots).contains key = true ↔ table.contains key = true := by
  have sameKey : ∀ entry : ClassEntry,
      (if entry.key = other then { entry with slots := some slots } else entry).key =
        entry.key := by
    intro entry
    split <;> rfl
  simp [contains_iff, setSlots, sameKey]

end Names

/-- The entry of a class. -/
def entryOf (known : Class → Option (List Slot)) (decl : Class) : ClassEntry where
  key := decl.qualifiedName
  ref := decl.ref
  slots := known decl

/-- The table of declared classes with the slots that are known of them. -/
def listing (classes : List Class) (known : Class → Option (List Slot)) : ClassTable :=
  ⟨classes.map (entryOf known)⟩

variable {classes linked : List Class} {known : Class → Option (List Slot)} {decl : Class}

/-- Declaring a class appends it, without slots. -/
theorem insert_listing (unknown : known decl = none) :
    (listing classes known).insert decl = listing (classes ++ [decl]) known := by
  simp [insert, listing, entryOf, unknown]

theorem contains_listing_iff {key : String} :
    (listing classes known).contains key = true ↔ key ∈ classes.map Class.qualifiedName := by
  simp [contains, find?, listing, entryOf, List.find?_isSome]

theorem contains_listing (member : decl ∈ classes) :
    (listing classes known).contains decl.qualifiedName = true :=
  contains_listing_iff.mpr (List.mem_map_of_mem member)

theorem find?_listing_eq_none_iff {key : String} :
    (listing classes known).find? key = none ↔ ∀ decl ∈ classes, decl.qualifiedName ≠ key := by
  simp [find?, listing, entryOf]

theorem find?_listing (declared : WellDeclared classes) (member : decl ∈ classes) :
    (listing classes known).find? decl.qualifiedName = some (entryOf known decl) := by
  cases found : (listing classes known).find? decl.qualifiedName with
  | none => exact absurd rfl (find?_listing_eq_none_iff.mp found decl member)
  | some entry =>
      unfold find? at found
      have sameKey := List.find?_some found
      rcases List.mem_map.mp (List.mem_of_find?_eq_some found) with ⟨other, otherMem, rfl⟩
      have same : other = decl :=
        declared.eq_of_qualifiedName_eq otherMem member (by simpa [entryOf] using sameKey)
      rw [same]

/-- Remembering slots changes the map at one class. -/
theorem setSlots_listing (declared : WellDeclared classes) (member : decl ∈ classes)
    (slots : List Slot) :
    (listing classes known).setSlots decl.qualifiedName slots =
      listing classes (Function.update known decl (some slots)) := by
  unfold setSlots listing
  rw [List.map_map]
  congr 1
  apply List.map_congr_left
  intro other otherMem
  by_cases same : other = decl
  · subst same
    simp [entryOf]
  · have differ : other.qualifiedName ≠ decl.qualifiedName := fun equal =>
      same (declared.eq_of_qualifiedName_eq otherMem member equal)
    simp [entryOf, differ, same]

/-! ## Looking up a base -/

/-- The classes with a given simple name whose slots are known. -/
def bearers (classes : List Class) (known : Class → Option (List Slot)) (name : String) :
    List Class :=
  classes.filter fun decl => decl.name == name && (known decl).isSome

theorem candidates_listing (name : String) :
    (listing classes known).candidates name =
      (bearers classes known name).map fun decl =>
        (decl.qualifiedName, (known decl).getD []) := by
  unfold candidates listing bearers
  induction classes with
  | nil => rfl
  | cons decl rest ih =>
      by_cases named : decl.name = name
      · cases slots : known decl <;> simp_all [entryOf, Class.ref]
      · simp_all [entryOf, Class.ref]

/-- A list without repetitions is a single item when all its members are that item. -/
theorem eq_singleton_iff_of_nodup {α : Type} {items : List α} (distinct : items.Nodup)
    (item : α) : items = [item] ↔ item ∈ items ∧ ∀ other ∈ items, other = item := by
  rw [← List.perm_singleton, List.perm_ext_iff_of_nodup distinct (List.nodup_singleton item)]
  simp only [List.mem_singleton]
  constructor
  · intro same
    exact ⟨(same item).mpr rfl, fun other => (same other).mp⟩
  · rintro ⟨member, all⟩ other
    exact ⟨all other, fun equal => equal ▸ member⟩

variable {base : String} {slots : List Slot}

/-- One class has slots under a simple name when it is the only linked class of that
name. -/
theorem candidates_eq_singleton_iff (declared : WellDeclared classes)
    (inside : linked ⊆ classes) (knows : ∀ decl, (known decl).isSome = true ↔ decl ∈ linked) :
    (∃ key, (listing classes known).candidates base = [(key, slots)]) ↔
      ∃ target ∈ linked, target.name = base ∧
        (∀ other ∈ linked, other.name = base → other = target) ∧ known target = some slots := by
  have mem_bearers : ∀ decl,
      decl ∈ bearers classes known base ↔ decl ∈ linked ∧ decl.name = base := by
    intro decl
    simp only [bearers, List.mem_filter, Bool.and_eq_true, beq_iff_eq, knows]
    constructor
    · rintro ⟨_, named, mem⟩
      exact ⟨mem, named⟩
    · rintro ⟨mem, named⟩
      exact ⟨inside mem, named, mem⟩
  have distinct : (bearers classes known base).Nodup := declared.nodup.filter _
  rw [candidates_listing]
  simp only [List.map_eq_singleton_iff, eq_singleton_iff_of_nodup distinct, mem_bearers,
    Prod.mk.injEq]
  constructor
  · rintro ⟨_, target, ⟨⟨mem, named⟩, only⟩, _, stored⟩
    refine ⟨target, mem, named,
      fun other otherMem otherNamed => only other ⟨otherMem, otherNamed⟩, ?_⟩
    rcases Option.isSome_iff_exists.mp ((knows target).mpr mem) with ⟨found, foundEq⟩
    rw [foundEq] at stored ⊢
    exact congrArg some stored
  · rintro ⟨target, mem, named, only, stored⟩
    refine ⟨target.qualifiedName, target, ⟨⟨mem, named⟩, ?_⟩, rfl, by rw [stored]; rfl⟩
    rintro other ⟨otherMem, otherNamed⟩
    exact only other otherMem otherNamed

/-- A base whose first look-up finds a class has the slots of that class, once they are
known. -/
theorem resolveBase_of_found {target : Class} (declared : WellDeclared classes)
    (member : target ∈ classes) (found : target.qualifiedName = localKey decl base) :
    (listing classes known).resolveBase decl base = .ok slots ↔ known target = some slots := by
  unfold resolveBase
  rw [← found, find?_listing declared member]
  cases stored : known target <;> simp [entryOf, stored]

/-- If no class of the own namespace has a simple name, exactly one linked class must
have it. -/
theorem resolveBase_of_absent (simple : isDotted base = false)
    (absent : ∀ other ∈ classes, other.qualifiedName ≠ localKey decl base) :
    (listing classes known).resolveBase decl base = .ok slots ↔
      ∃ key, (listing classes known).candidates base = [(key, slots)] := by
  unfold resolveBase
  rw [find?_listing_eq_none_iff.mpr absent]
  simp only [simple, Bool.false_eq_true, if_false]
  rcases (listing classes known).candidates base with
    _ | ⟨⟨key, first⟩, _ | ⟨second, rest⟩⟩ <;> simp

/-- If several classes have it, they are all named in the error. -/
theorem resolveBase_of_several (simple : isDotted base = false)
    (absent : ∀ other ∈ classes, other.qualifiedName ≠ localKey decl base)
    {first second : Class} (firstMem : first ∈ bearers classes known base)
    (secondMem : second ∈ bearers classes known base) (differ : first ≠ second) :
    (listing classes known).resolveBase decl base =
      .error (.ambiguousBase decl.qualifiedName base
        ((bearers classes known base).map Class.qualifiedName)) := by
  unfold resolveBase
  rw [find?_listing_eq_none_iff.mpr absent, candidates_listing]
  simp only [simple, Bool.false_eq_true, if_false]
  generalize bearers classes known base = several at firstMem secondMem ⊢
  rcases several with _ | ⟨only, _ | ⟨other, rest⟩⟩
  · simp at firstMem
  · rw [List.mem_singleton] at firstMem secondMem
    exact absurd (firstMem.trans secondMem.symm) differ
  · simp

section Meaning

variable (declared : WellDeclared classes) (inside : linked ⊆ classes)
  (knows : ∀ decl, (known decl).isSome = true ↔ decl ∈ linked)

include declared inside knows

theorem resolveBase_dotted_eq_ok_iff (dotted : isDotted base = true) :
    (listing classes known).resolveBase decl base = .ok slots ↔
      ∃ target, Denotes classes linked decl base target ∧ known target = some slots := by
  have sameKey : localKey decl base = base := localKey_of_dotted dotted
  by_cases present : ∃ target ∈ classes, target.qualifiedName = base
  · rcases present with ⟨target, member, found⟩
    rw [resolveBase_of_found declared member (found.trans sameKey.symm)]
    constructor
    · intro stored
      exact ⟨target, .dotted dotted ((knows target).mp (by simp [stored])) found, stored⟩
    · rintro ⟨other, denotes, stored⟩
      cases denotes with
      | dotted _ mem name =>
          rwa [declared.eq_of_qualifiedName_eq member (inside mem) (found.trans name.symm)]
      | sameNamespace simple => simp [dotted] at simple
      | elsewhere simple => simp [dotted] at simple
  · have absent : ∀ other ∈ classes, other.qualifiedName ≠ localKey decl base := by
      intro other otherMem found
      exact present ⟨other, otherMem, found.trans sameKey⟩
    unfold resolveBase
    rw [find?_listing_eq_none_iff.mpr absent]
    simp only [dotted, if_true, reduceCtorEq, false_iff]
    rintro ⟨other, denotes, _⟩
    cases denotes with
    | dotted _ mem name => exact present ⟨other, inside mem, name⟩
    | sameNamespace simple => simp [dotted] at simple
    | elsewhere simple => simp [dotted] at simple

theorem resolveBase_simple_eq_ok_iff (simple : isDotted base = false)
    (checked : decl.check = .ok ()) (named : decl.base = some base) :
    (listing classes known).resolveBase decl base = .ok slots ↔
      ∃ target, Denotes classes linked decl base target ∧ known target = some slots := by
  have keyIff : ∀ target ∈ classes, target.qualifiedName = localKey decl base ↔
      target.path = decl.path ∧ target.name = base := fun target member =>
    qualifiedName_eq_localKey_iff checked (declared.checked target member) named simple
  by_cases present : ∃ target ∈ classes, target.path = decl.path ∧ target.name = base
  · rcases present with ⟨target, member, path, name⟩
    rw [resolveBase_of_found declared member ((keyIff target member).mpr ⟨path, name⟩)]
    constructor
    · intro stored
      exact ⟨target, .sameNamespace simple ((knows target).mp (by simp [stored])) path name,
        stored⟩
    · rintro ⟨other, denotes, stored⟩
      cases denotes with
      | dotted dotted => simp [simple] at dotted
      | sameNamespace _ mem otherPath otherName =>
          have same : target = other := declared.eq_of_ref_eq member (inside mem)
            (by simp [Class.ref, path, name, otherPath, otherName])
          rwa [same]
      | elsewhere _ absent => exact absurd name (absent target member path)
  · have absent : ∀ other ∈ classes, other.path = decl.path → other.name ≠ base := by
      intro other otherMem path name
      exact present ⟨other, otherMem, path, name⟩
    have noKey : ∀ other ∈ classes, other.qualifiedName ≠ localKey decl base := by
      intro other otherMem found
      rcases (keyIff other otherMem).mp found with ⟨path, name⟩
      exact absent other otherMem path name
    rw [resolveBase_of_absent simple noKey, candidates_eq_singleton_iff declared inside knows]
    constructor
    · rintro ⟨target, mem, name, only, stored⟩
      exact ⟨target, .elsewhere simple absent mem name only, stored⟩
    · rintro ⟨other, denotes, stored⟩
      cases denotes with
      | dotted dotted => simp [simple] at dotted
      | sameNamespace _ mem path name => exact absurd name (absent other (inside mem) path)
      | elsewhere _ _ mem name only => exact ⟨other, mem, name, only, stored⟩

/-- Looking up a base in the table answers the slots of the class that it denotes. -/
theorem resolveBase_listing_eq_ok_iff (checked : decl.check = .ok ())
    (named : decl.base = some base) :
    (listing classes known).resolveBase decl base = .ok slots ↔
      ∃ target, Denotes classes linked decl base target ∧ known target = some slots := by
  cases shape : isDotted base with
  | true => exact resolveBase_dotted_eq_ok_iff declared inside knows shape
  | false => exact resolveBase_simple_eq_ok_iff declared inside knows shape checked named

end Meaning

end VtableHeader.ClassTable
