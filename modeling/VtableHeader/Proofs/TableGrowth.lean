import Mathlib.Data.List.Forall2
import VtableHeader.Proofs.ClassListing

/-!
# Growth of the class table

While the classes of a unit are linked, the entries of the class table stay where they are and
slots that were unknown become known; slots that are known do not change.  A base that was resolved
before is then resolved to the same slots, or it has become ambiguous: more classes of its simple
name have slots.  No other error can appear, and storing the same slots again changes nothing.
-/

namespace VtableHeader

/-- An entry keeps its class, and its slots once they are known. -/
structure ClassEntry.Grows (entry later : ClassEntry) : Prop where
  key : later.key = entry.key
  ref : later.ref = entry.ref
  slots : ∀ slots, entry.slots = some slots → later.slots = some slots

namespace ClassTable

/-- All entries grow, and none is added. -/
def Grows (table later : ClassTable) : Prop :=
  List.Forall₂ ClassEntry.Grows table.entries later.entries

/-- The entries under a dotted name have these slots. -/
def Stores (table : ClassTable) (key : String) (slots : List Slot) : Prop :=
  ∀ entry ∈ table.entries, entry.key = key → entry.slots = some slots

/-- The entries under a dotted name have no slots yet. -/
def Unlinked (table : ClassTable) (key : String) : Prop :=
  ∀ entry ∈ table.entries, entry.key = key → entry.slots = none

variable {table middle later : ClassTable} {key : String} {slots : List Slot} {decl : Class}

theorem grows_refl (table : ClassTable) : table.Grows table := by
  apply List.forall₂_same.mpr
  intro entry _
  exact ⟨rfl, rfl, fun _ known => known⟩

theorem Grows.trans (begins : table.Grows middle) (continues : middle.Grows later) :
    table.Grows later := by
  rcases table with ⟨entries⟩
  rcases middle with ⟨between⟩
  rcases later with ⟨grown⟩
  change List.Forall₂ ClassEntry.Grows entries between at begins
  change List.Forall₂ ClassEntry.Grows between grown at continues
  change List.Forall₂ ClassEntry.Grows entries grown
  induction begins generalizing grown with
  | nil => exact continues
  | cons first _ ih =>
      cases continues with
      | cons second others =>
          exact .cons ⟨second.key.trans first.key, second.ref.trans first.ref,
            fun slots known => second.slots slots (first.slots slots known)⟩ (ih _ others)

/-- A look-up finds the same class, grown. -/
theorem Grows.find? (grows : table.Grows later) (key : String) :
    (table.find? key = none ∧ later.find? key = none) ∨
      ∃ entry grown, table.find? key = some entry ∧ later.find? key = some grown ∧
        entry.Grows grown := by
  rcases table with ⟨entries⟩
  rcases later with ⟨others⟩
  change List.Forall₂ ClassEntry.Grows entries others at grows
  unfold ClassTable.find?
  induction grows with
  | nil => exact .inl ⟨rfl, rfl⟩
  | @cons entry grown _ _ first _ ih =>
      by_cases here : entry.key = key
      · have there : grown.key = key := first.key.trans here
        simp only [List.find?_cons, here, there, beq_self_eq_true]
        exact .inr ⟨entry, grown, rfl, rfl, first⟩
      · have notThere : grown.key ≠ key := fun same => here (first.key.symm.trans same)
        have hereFalse : (entry.key == key) = false := beq_eq_false_iff_ne.mpr here
        have thereFalse : (grown.key == key) = false := beq_eq_false_iff_ne.mpr notThere
        simp only [List.find?_cons, hereFalse, thereFalse]
        exact ih

theorem Grows.contains_eq (grows : table.Grows later) :
    later.contains key = table.contains key := by
  unfold contains
  rcases grows.find? key with ⟨absent, stillAbsent⟩ | ⟨entry, grown, found, foundLater, _⟩
  · rw [absent, stillAbsent]
  · rw [found, foundLater]
    rfl

/-- More classes of a simple name may have slots later. -/
theorem Grows.candidates_sublist (grows : table.Grows later) (name : String) :
    (table.candidates name).Sublist (later.candidates name) := by
  rcases table with ⟨entries⟩
  rcases later with ⟨others⟩
  change List.Forall₂ ClassEntry.Grows entries others at grows
  unfold candidates
  induction grows with
  | nil => exact .slnil
  | @cons entry grown _ _ first _ ih =>
      by_cases named : entry.ref.name = name
      · have alsoNamed : grown.ref.name = name := first.ref ▸ named
        simp only [List.filter_cons, named, alsoNamed, beq_self_eq_true, if_true,
          List.filterMap_cons]
        cases known : entry.slots with
        | none =>
            simp only [Option.map_none]
            cases grown.slots with
            | none => exact ih
            | some slots => exact .cons _ ih
        | some slots =>
            simp only [first.slots slots known, Option.map_some, first.key]
            exact .cons_cons _ ih
      · have notNamed : grown.ref.name ≠ name := fun same => named (first.ref ▸ same)
        simp only [List.filter_cons, beq_eq_false_iff_ne.mpr named,
          beq_eq_false_iff_ne.mpr notNamed]
        exact ih

/-- A base that is resolved stays resolved to the same slots, unless it becomes ambiguous. -/
theorem Grows.resolveBase {base : String} (grows : table.Grows later)
    (resolved : table.resolveBase decl base = .ok slots) :
    later.resolveBase decl base = .ok slots ∨
      ∃ keys,
        later.resolveBase decl base = .error (.ambiguousBase decl.qualifiedName base keys) := by
  unfold ClassTable.resolveBase at resolved ⊢
  rcases grows.find? (localKey decl base) with
    ⟨absent, stillAbsent⟩ | ⟨entry, grown, found, foundLater, one⟩
  · rw [absent] at resolved
    rw [stillAbsent]
    by_cases dotted : isDotted base = true
    · simp [dotted] at resolved
    · rw [Bool.not_eq_true] at dotted
      simp only [dotted, Bool.false_eq_true, if_false] at resolved ⊢
      have fewer := grows.candidates_sublist base
      generalize table.candidates base = before at resolved fewer
      generalize later.candidates base = after at fewer
      rcases before with _ | ⟨candidate, _ | ⟨second, rest⟩⟩
      · simp at resolved
      · rcases after with _ | ⟨first, _ | ⟨second, rest⟩⟩
        · simp at fewer
        · obtain rfl : candidate = first := by simpa using fewer
          exact .inl resolved
        · exact .inr ⟨_, rfl⟩
      · simp at resolved
  · rw [found] at resolved
    rw [foundLater]
    cases known : entry.slots with
    | none => simp [known] at resolved
    | some stored =>
        simp only [known] at resolved
        simp only [one.slots stored known]
        exact .inl resolved

theorem Grows.inheritedSlots (grows : table.Grows later)
    (inherits : table.inheritedSlots decl = .ok slots) :
    later.inheritedSlots decl = .ok slots ∨
      ∃ base keys,
        later.inheritedSlots decl = .error (.ambiguousBase decl.qualifiedName base keys) := by
  unfold ClassTable.inheritedSlots at inherits ⊢
  cases named : decl.base with
  | none =>
      rw [named] at inherits
      exact .inl inherits
  | some base =>
      rw [named] at inherits
      apply (grows.resolveBase inherits).imp_right
      rintro ⟨keys, failed⟩
      exact ⟨base, keys, failed⟩

/-! ## Storing slots -/

theorem stores_setSlots (table : ClassTable) (key : String) (slots : List Slot) :
    (table.setSlots key slots).Stores key slots := by
  intro entry member same
  obtain ⟨old, _, rfl⟩ := List.mem_map.mp member
  by_cases here : old.key = key
  · simp [here]
  · simp [here] at same

/-- Storing the same slots again changes nothing. -/
theorem Stores.setSlots_eq (stores : table.Stores key slots) :
    table.setSlots key slots = table := by
  rcases table with ⟨entries⟩
  have kept : ∀ entry ∈ entries,
      (if entry.key = key then { entry with slots := some slots } else entry) = entry := by
    intro entry member
    by_cases here : entry.key = key
    · rw [if_pos here, ← stores entry member here]
    · rw [if_neg here]
  unfold setSlots
  rw [List.map_congr_left kept, List.map_id']

theorem Grows.stores (grows : table.Grows later) (stores : table.Stores key slots) :
    later.Stores key slots := by
  rcases table with ⟨entries⟩
  rcases later with ⟨others⟩
  change List.Forall₂ ClassEntry.Grows entries others at grows
  change ∀ entry ∈ entries, _ at stores
  change ∀ entry ∈ others, _
  induction grows with
  | nil => simp
  | cons first _ ih =>
      rcases List.forall_mem_cons.mp stores with ⟨here, rest⟩
      apply List.forall_mem_cons.mpr ⟨_, ih rest⟩
      intro same
      exact first.slots slots (here (first.key.symm.trans same))

/-- Slots that are stored for the first time let the table grow. -/
theorem Unlinked.grows_setSlots (unlinked : table.Unlinked key) (slots : List Slot) :
    table.Grows (table.setSlots key slots) := by
  apply List.forall₂_map_right_iff.mpr
  apply List.forall₂_same.mpr
  intro entry member
  by_cases here : entry.key = key
  · rw [if_pos here]
    constructor
    · rfl
    · rfl
    · intro old known
      simp [unlinked entry member here] at known
  · rw [if_neg here]
    exact ⟨rfl, rfl, fun _ known => known⟩

theorem Unlinked.setSlots {other : String} (unlinked : table.Unlinked key) (differ : key ≠ other) :
    (table.setSlots other slots).Unlinked key := by
  intro entry member same
  obtain ⟨old, oldMember, rfl⟩ := List.mem_map.mp member
  by_cases here : old.key = other
  · simp only [here, if_true] at same
    exact absurd same.symm differ
  · simp only [here, if_false] at same ⊢
    exact unlinked old oldMember same

theorem Unlinked.insert (unlinked : table.Unlinked key) (decl : Class) :
    (table.insert decl).Unlinked key := by
  apply List.forall_mem_append.mpr ⟨unlinked, _⟩
  simp

/-- A dotted name that is not declared has no slots. -/
theorem unlinked_of_not_contains (absent : table.contains key = false) : table.Unlinked key := by
  intro entry member same
  have present : table.contains key = true := contains_iff.mpr ⟨entry, member, same⟩
  simp [absent] at present

end ClassTable

end VtableHeader
