import Mathlib.Data.List.Induction
import VtableHeader.Proofs.CheckedMembers
import VtableHeader.Proofs.ClassListing
import VtableHeader.Proofs.TypeNames
import VtableHeader.Vtable

/-!
# Printed names

The path of a class is printed in two ways.  In messages and in the class table its segments are
joined by dots; in generated code a scope operator stands before each of them, and a class that
lives where the code stands goes by the name of its struct alone.

A dotted word is read by splitting it at its dots.  What is read is printed as the same word again,
but a path comes back only if no segment holds a dot, and if it is not the single empty segment,
which looks like the global namespace.  Scope operators are read from the end: behind the last one
stands a name without a colon.  Identifiers hold neither separator, so the printed names of checked
classes tell them apart.
-/

namespace VtableHeader

namespace NamespacePath

variable {path : NamespacePath}

/-- Joining undoes splitting. -/
theorem intercalate_splitDots (word : String) : ".".intercalate (splitDots word) = word := by
  apply String.toList_injective
  rw [String.toList_intercalate, splitDots, List.map_map]
  have pieces : (word.toList.splitOn '.').map (String.toList ∘ String.ofList) =
      word.toList.splitOn '.' := by
    simp [Function.comp_def]
  rw [pieces]
  exact List.intercalate_splitOn '.'

/-- The pieces of a word are the words without a dot that it is joined from. -/
theorem splitDots_eq_iff {word : String} {pieces : List String} :
    splitDots word = pieces ↔
      pieces ≠ [] ∧ (∀ piece ∈ pieces, '.' ∉ piece.toList) ∧ ".".intercalate pieces = word := by
  constructor
  · rintro rfl
    have nonempty : splitDots word ≠ [] := by simp [splitDots]
    have dotless : ∀ piece ∈ splitDots word, '.' ∉ piece.toList := by
      intro piece member
      obtain ⟨chars, charsMem, rfl⟩ := List.mem_map.mp member
      rw [String.toList_ofList]
      exact notMem_of_mem_splitOn charsMem
    exact ⟨nonempty, dotless, intercalate_splitDots word⟩
  · rintro ⟨nonempty, dotless, rfl⟩
    exact splitDots_intercalate nonempty dotless

/-- The empty word is printed for the global namespace and for a single empty segment. -/
theorem dotted_eq_empty_iff : path.dotted = "" ↔ path.segments = [] ∨ path.segments = [""] := by
  unfold dotted
  cases path.segments with
  | nil => simp
  | cons first rest =>
      cases rest with
      | nil => simp
      | cons second rest => simp

/-- Whatever word a path is read from, the path is printed as that word. -/
theorem dotted_ofDotted (word : String) : (ofDotted word).dotted = word := by
  unfold ofDotted
  split
  case isTrue empty => exact (String.isEmpty_iff.mp empty).symm
  case isFalse => exact intercalate_splitDots word

/-- The paths that come back when they are printed and read. -/
theorem ofDotted_dotted_iff :
    ofDotted path.dotted = path ↔
      (∀ segment ∈ path.segments, '.' ∉ segment.toList) ∧ path.segments ≠ [""] := by
  by_cases empty : path.dotted = ""
  · rcases path with ⟨segments⟩
    rcases dotted_eq_empty_iff.mp empty with rfl | rfl <;> simp [ofDotted, dotted, root]
  · have apart := mt dotted_eq_empty_iff.mpr empty
    rw [not_or] at apart
    have read : ofDotted path.dotted = ⟨splitDots path.dotted⟩ :=
      if_neg (mt String.isEmpty_iff.mp empty)
    have same : ofDotted path.dotted = path ↔ splitDots path.dotted = path.segments := by
      rw [read, NamespacePath.mk.injEq]
    rw [same, splitDots_eq_iff]
    simp [apart, dotted]

/-- Dotted words and paths.  Every word is printed again from the path that it spells; a path is
read again from the word that is printed for it exactly when no segment holds a dot and the path is
not a single empty segment. -/
theorem dotted_roundTrip :
    (∀ word, (ofDotted word).dotted = word) ∧
      ∀ path, ofDotted path.dotted = path ↔
        (∀ segment ∈ path.segments, '.' ∉ segment.toList) ∧ path.segments ≠ [""] :=
  ⟨dotted_ofDotted, fun _ => ofDotted_dotted_iff⟩

example : ofDotted (dotted ⟨[""]⟩) = root ∧ ofDotted (dotted ⟨["", ""]⟩) = ⟨["", ""]⟩ := by
  decide

end NamespacePath

/-! ## Scope operators -/

/-- Behind the last scope operator stands a name without a colon, which is read from the end. -/
theorem takeWhile_reverse_append_scope (front : String) {name : String}
    (plain : ':' ∉ name.toList) :
    (front ++ "::" ++ name).toList.reverse.takeWhile (· ≠ ':') = name.toList.reverse := by
  have reversed : (front ++ "::" ++ name).toList.reverse =
      name.toList.reverse ++ ':' :: ':' :: front.toList.reverse := by
    simp
  rw [reversed, List.takeWhile_append_of_pos]
  · simp
  · intro char member
    simpa using ne_of_mem_of_not_mem (List.mem_reverse.mp member) plain

/-- Names without a colon are told apart, and so is what stands before them. -/
theorem append_scope_inj {front back name other : String} (plain : ':' ∉ name.toList)
    (otherPlain : ':' ∉ other.toList) :
    front ++ "::" ++ name = back ++ "::" ++ other ↔ front = back ∧ name = other := by
  constructor
  · intro same
    have names := takeWhile_reverse_append_scope front plain
    rw [same, takeWhile_reverse_append_scope back otherPlain] at names
    obtain rfl : other = name := String.toList_injective (List.reverse_injective names)
    exact ⟨(String.append_left_inj _).mp ((String.append_left_inj _).mp same), rfl⟩
  · rintro ⟨rfl, rfl⟩
    rfl

namespace NamespacePath

/-- A path whose segments hold no colon. -/
def Colonless (path : NamespacePath) : Prop :=
  ∀ segment ∈ path.segments, ':' ∉ segment.toList

theorem qualifier_eq_empty_iff {path : NamespacePath} :
    path.qualifier = "" ↔ path = root := by
  rcases path with ⟨segments⟩
  cases segments <;> simp [root, qualifier]

theorem qualifier_concat (segments : List String) (last : String) :
    qualifier ⟨segments ++ [last]⟩ = qualifier ⟨segments⟩ ++ "::" ++ last := by
  simp [qualifier, String.append_assoc]

/-- Qualifiers tell paths without colons apart. -/
theorem qualifier_inj {first second : NamespacePath} (firstPlain : first.Colonless)
    (secondPlain : second.Colonless) : first.qualifier = second.qualifier ↔ first = second := by
  constructor
  · intro same
    rcases first with ⟨segments⟩
    -- The induction is from the end, where the last scope operator can be found.
    induction segments using List.reverseRecOn generalizing second with
    | nil => exact (qualifier_eq_empty_iff.mp same.symm).symm
    | append_singleton segments last ih =>
        rcases second with ⟨others⟩
        rcases others.eq_nil_or_concat' with rfl | ⟨others, otherLast, rfl⟩
        · exact qualifier_eq_empty_iff.mp same
        · obtain ⟨front, lastPlain⟩ := List.forall_mem_append.mp firstPlain
          obtain ⟨otherFront, otherPlain⟩ := List.forall_mem_append.mp secondPlain
          rw [qualifier_concat, qualifier_concat,
            append_scope_inj (lastPlain last List.mem_cons_self)
              (otherPlain otherLast List.mem_cons_self)] at same
          obtain ⟨fronts, rfl⟩ := same
          cases ih otherFront front fronts
          rfl
  · rintro rfl
    rfl

end NamespacePath

/-- A class whose name and namespace hold no colon. -/
def ClassRef.Colonless (ref : ClassRef) : Prop :=
  ':' ∉ ref.name.toList ∧ ref.path.Colonless

theorem colon_notMem_dataName {name : String} (plain : ':' ∉ name.toList) :
    ':' ∉ (dataName name).toList := by
  simpa [dataName] using plain

section References

variable {first second : ClassRef} {viewpoint : NamespacePath}

/-- A class that lives elsewhere is told from one that lives where the code stands by the scope
operator before it. -/
theorem ClassRef.structPath_ne_of_path (plain : first.Colonless) (near : first.path = viewpoint)
    (far : second.path ≠ viewpoint) :
    first.structPath viewpoint ≠ second.structPath viewpoint := by
  rw [structPath, if_pos near, structPath, if_neg far]
  intro same
  exact colon_notMem_dataName plain.1 (by simp [same])

/-- Whatever namespace they are seen from, structs tell classes apart. -/
theorem ClassRef.structPath_inj (firstPlain : first.Colonless) (secondPlain : second.Colonless) :
    first.structPath viewpoint = second.structPath viewpoint ↔ first = second := by
  constructor
  · intro same
    have parts : first.path = second.path ∧ dataName first.name = dataName second.name := by
      by_cases near : first.path = viewpoint <;> by_cases otherNear : second.path = viewpoint
      · rw [structPath, if_pos near, structPath, if_pos otherNear] at same
        exact ⟨near.trans otherNear.symm, same⟩
      · exact absurd same (structPath_ne_of_path firstPlain near otherNear)
      · exact absurd same.symm (structPath_ne_of_path secondPlain otherNear near)
      · rw [structPath, if_neg near, structPath, if_neg otherNear,
          append_scope_inj (colon_notMem_dataName firstPlain.1)
            (colon_notMem_dataName secondPlain.1)] at same
        exact ⟨(NamespacePath.qualifier_inj firstPlain.2 secondPlain.2).mp same.1, same.2⟩
    exact congrArg₂ ClassRef.mk (dataName_injective parts.2) parts.1
  · rintro rfl
    rfl

/-- The addresses of two static functions are told apart by their classes and their names. -/
theorem Slot.target_inj {method other : Method} (firstPlain : first.Colonless)
    (secondPlain : second.Colonless) (plain : ':' ∉ method.name.toList)
    (otherPlain : ':' ∉ other.name.toList) :
    target ⟨method, first⟩ viewpoint = target ⟨other, second⟩ viewpoint ↔
      first = second ∧ method.name = other.name := by
  unfold target
  rw [append_scope_inj plain otherPlain, String.append_right_inj,
    ClassRef.structPath_inj firstPlain secondPlain]

end References

namespace Class

variable {first second : Class}

theorem ref_eq_iff :
    first.ref = second.ref ↔
      first.path.segments = second.path.segments ∧ first.name = second.name := by
  rcases first with ⟨name, ⟨segments⟩, _, _, _⟩
  rcases second with ⟨otherName, ⟨otherSegments⟩, _, _, _⟩
  simp [ref, and_comm]

theorem NamesIdentified.colonless (identified : first.NamesIdentified) : first.ref.Colonless :=
  ⟨colon_notMem_of_isIdentifier identified.1,
    fun segment member => colon_notMem_of_isIdentifier (identified.2 segment member)⟩

theorem isIdentifier_of_mem_methods {decl : Class} {method : Method} (checked : decl.check = .ok ())
    (member : method ∈ decl.methods) : isIdentifier method.name = true := by
  obtain ⟨_, _, _, _, _, methods⟩ := check_eq_ok_iff.mp checked
  exact ((checkMethods_eq_ok_iff.mp methods).1 method member).1

/-- Printed names identify checked classes.  Two of them have the same dotted name, or the same
struct as seen from any namespace, exactly when they have the same name in the same namespace.  So
entering one of them in the class table makes no other one known, and the address of a method
belongs to no other class. -/
theorem printedNames_identify (first second : Class) (firstChecked : first.check = .ok ())
    (secondChecked : second.check = .ok ()) :
    let same := first.path.segments = second.path.segments ∧ first.name = second.name
    (first.qualifiedName = second.qualifiedName ↔ same) ∧
    (∀ viewpoint, first.ref.structPath viewpoint = second.ref.structPath viewpoint ↔ same) ∧
    (∀ table : ClassTable, (table.insert first).contains second.qualifiedName = true ↔
      table.contains second.qualifiedName = true ∨ same) ∧
    ∀ viewpoint, ∀ method ∈ first.methods, ∀ other ∈ second.methods,
      (Slot.target ⟨method, first.ref⟩ viewpoint = Slot.target ⟨other, second.ref⟩ viewpoint ↔
        same ∧ method.name = other.name) := by
  intro same
  have refs : first.ref = second.ref ↔ same := ref_eq_iff
  have firstNames := namesIdentified_of_check firstChecked
  have secondNames := namesIdentified_of_check secondChecked
  have dotted := qualifiedName_inj firstNames secondNames
  rw [refs] at dotted
  refine ⟨dotted, fun viewpoint => ?_, fun table => ?_, ?_⟩
  · rw [ClassRef.structPath_inj firstNames.colonless secondNames.colonless, refs]
  · rw [ClassTable.contains_insert_iff, dotted]
  · intro viewpoint method member other otherMember
    have plain := colon_notMem_of_isIdentifier (isIdentifier_of_mem_methods firstChecked member)
    have otherPlain :=
      colon_notMem_of_isIdentifier (isIdentifier_of_mem_methods secondChecked otherMember)
    rw [Slot.target_inj firstNames.colonless secondNames.colonless plain otherPlain, refs]

end Class

/-- A class of the namespace `x`. -/
def insider : Class where
  name := "A"
  path := ⟨["x"]⟩
  methods := [{ returnType := "void", name := "run" }]

/-- Its namesake outside of all namespaces. -/
def outsider : Class :=
  { insider with path := .root }

/-- Where `insider` lives, the names of both structs differ by the scope operator alone. -/
theorem insider_identified :
    insider.check = .ok () ∧ outsider.check = .ok () ∧
      insider.qualifiedName ≠ outsider.qualifiedName ∧
      (∀ viewpoint, insider.ref.structPath viewpoint ≠ outsider.ref.structPath viewpoint) ∧
      insider.ref.structPath ⟨["x"]⟩ = "__A" ∧ outsider.ref.structPath ⟨["x"]⟩ = "::__A" := by
  have checked : insider.check = .ok () := by decide +kernel
  have otherChecked : outsider.check = .ok () := by decide +kernel
  obtain ⟨names, structs, -, -⟩ := Class.printedNames_identify insider outsider checked otherChecked
  have differ : ¬ (insider.path.segments = outsider.path.segments ∧
      insider.name = outsider.name) := by decide
  exact ⟨checked, otherChecked, mt names.mp differ,
    fun viewpoint => mt (structs viewpoint).mp differ, by decide +kernel, by decide +kernel⟩

end VtableHeader
