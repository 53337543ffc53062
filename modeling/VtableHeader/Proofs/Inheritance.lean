import Mathlib.Data.List.Nodup
import Mathlib.Logic.Relation
import VtableHeader.Proofs.CheckedClass

/-!
# Inheritance among the classes of a unit

What the name of a base means, said without the class table: a dotted name is
the class of that dotted name, a simple name is the class of that name in the
namespace of the derived class, and if there is none it is the only class of that
name anywhere.  Two lists take part, because names are looked up while classes
are still being linked: those that are declared, among which a class of the own
namespace hides all others, and those that already have slots.

On this rest the ancestors of a class, nearest first, and the order that a unit
has to keep: every base stands before the classes that inherit from it.
-/

namespace VtableHeader

open ClassTable (isDotted)

/-- Classes that can be declared in one header: each passes its check, and no two
have the same name in the same namespace. -/
structure WellDeclared (classes : List Class) : Prop where
  checked : ∀ decl ∈ classes, decl.check = .ok ()
  distinct : (classes.map Class.ref).Nodup

/-- The class `target` is what `decl` means by `base` when the classes `declared` are
declared and those in `linked` have slots. -/
inductive Denotes (declared linked : List Class) (decl : Class) (base : String)
    (target : Class) : Prop where
  /-- A dotted base is the class of that dotted name. -/
  | dotted (dotted : isDotted base = true) (mem : target ∈ linked)
      (name : target.qualifiedName = base)
  /-- A simple base is the class of that name in the same namespace. -/
  | sameNamespace (simple : isDotted base = false) (mem : target ∈ linked)
      (path : target.path = decl.path) (name : target.name = base)
  /-- If the namespace has no such class, it is the only one of that name. -/
  | elsewhere (simple : isDotted base = false)
      (absent : ∀ other ∈ declared, other.path = decl.path → other.name ≠ base)
      (mem : target ∈ linked) (name : target.name = base)
      (only : ∀ other ∈ linked, other.name = base → other = target)

/-- The simple base of `decl` is borne by several classes, none of them in its
namespace. -/
def Contested (declared : List Class) (decl : Class) : Prop :=
  ∃ base, decl.base = some base ∧ isDotted base = false ∧
    (∀ other ∈ declared, other.path = decl.path → other.name ≠ base) ∧
    ∃ first ∈ declared, ∃ second ∈ declared,
      first.name = base ∧ second.name = base ∧ first ≠ second

instance (declared : List Class) (decl : Class) : Decidable (Contested declared decl) :=
  match named : decl.base with
  | none => isFalse fun ⟨_, other, _⟩ => by simp [named] at other
  | some base =>
      decidable_of_iff
        (isDotted base = false ∧
          (∀ other ∈ declared, other.path = decl.path → other.name ≠ base) ∧
          ∃ first ∈ declared, ∃ second ∈ declared,
            first.name = base ∧ second.name = base ∧ first ≠ second)
        ⟨fun borne => ⟨base, named, borne⟩, fun ⟨_, other, borne⟩ =>
          Option.some.inj (named.symm.trans other) ▸ borne⟩

/-- The base of `decl` is `target`, with all classes in view. -/
def InheritsFrom (classes : List Class) (decl target : Class) : Prop :=
  ∃ base, decl.base = some base ∧ Denotes classes classes decl base target

/-- The ancestors of a class up to a root, nearest first. -/
inductive Ancestry (classes : List Class) : Class → List Class → Prop where
  | root {decl : Class} (rootless : decl.base = none) : Ancestry classes decl []
  | derived {decl target : Class} {ancestors : List Class}
      (inherits : InheritsFrom classes decl target)
      (above : Ancestry classes target ancestors) :
      Ancestry classes decl (target :: ancestors)

/-- Every base means a class that stands before the class that names it. -/
def BaseFirst (classes : List Class) : Prop :=
  ∀ before decl after, classes = before ++ decl :: after →
    ∀ base, decl.base = some base → ∃ target ∈ before, Denotes classes classes decl base target

namespace WellDeclared

variable {classes : List Class}

theorem eq_of_ref_eq (declared : WellDeclared classes) {first second : Class}
    (firstMem : first ∈ classes) (secondMem : second ∈ classes)
    (same : first.ref = second.ref) : first = second :=
  List.inj_on_of_nodup_map declared.distinct firstMem secondMem same

theorem eq_of_qualifiedName_eq (declared : WellDeclared classes) {first second : Class}
    (firstMem : first ∈ classes) (secondMem : second ∈ classes)
    (same : first.qualifiedName = second.qualifiedName) : first = second := by
  apply declared.eq_of_ref_eq firstMem secondMem
  exact (Class.qualifiedName_inj
    (Class.namesIdentified_of_check (declared.checked first firstMem))
    (Class.namesIdentified_of_check (declared.checked second secondMem))).mp same

theorem nodup (declared : WellDeclared classes) : classes.Nodup :=
  List.Nodup.of_map Class.ref declared.distinct

/-- No two classes have one dotted name. -/
theorem nodup_qualifiedName (declared : WellDeclared classes) :
    (classes.map Class.qualifiedName).Nodup := by
  apply List.Nodup.map_on _ declared.nodup
  intro first firstMem second secondMem same
  exact declared.eq_of_qualifiedName_eq firstMem secondMem same

/-- No class stands twice. -/
theorem notMem_before (declared : WellDeclared classes) {before after : List Class}
    {decl : Class} (split : classes = before ++ decl :: after) : decl ∉ before := by
  have distinct := declared.nodup
  rw [split, List.nodup_append] at distinct
  intro again
  exact distinct.2.2 decl again decl List.mem_cons_self rfl

theorem perm {other : List Class} (declared : WellDeclared classes)
    (same : other.Perm classes) : WellDeclared other where
  checked := fun decl member => declared.checked decl (same.mem_iff.mp member)
  distinct := (same.map Class.ref).nodup_iff.mpr declared.distinct

end WellDeclared

/-! ## What a base denotes -/

namespace Denotes

variable {declared linked : List Class} {decl target : Class} {base : String}

theorem mem (denotes : Denotes declared linked decl base target) : target ∈ linked := by
  cases denotes <;> assumption

/-- A base keeps its meaning when other classes are left out. -/
theorem restrict {fewerDeclared fewerLinked : List Class}
    (denotes : Denotes declared linked decl base target) (subset : fewerDeclared ⊆ declared)
    (linkedSubset : fewerLinked ⊆ linked) (mem : target ∈ fewerLinked) :
    Denotes fewerDeclared fewerLinked decl base target := by
  cases denotes with
  | dotted isDotted _ name => exact .dotted isDotted mem name
  | sameNamespace simple _ path name => exact .sameNamespace simple mem path name
  | elsewhere simple absent _ name only =>
      refine .elsewhere simple ?_ mem name ?_
      · intro other otherMem
        exact absent other (subset otherMem)
      · intro other otherMem
        exact only other (linkedSubset otherMem)

/-- Only membership of the two lists counts. -/
theorem congr {otherDeclared otherLinked : List Class}
    (denotes : Denotes declared linked decl base target)
    (sameDeclared : ∀ other, other ∈ otherDeclared ↔ other ∈ declared)
    (sameLinked : ∀ other, other ∈ otherLinked ↔ other ∈ linked) :
    Denotes otherDeclared otherLinked decl base target := by
  apply denotes.restrict
  · exact fun other otherMem => (sameDeclared other).mp otherMem
  · exact fun other otherMem => (sameLinked other).mp otherMem
  · exact (sameLinked target).mpr denotes.mem

/-- Linking more classes cannot turn a base that still has a meaning into another
class. -/
theorem eq_of_subset {wider : List Class} {other : Class} (wellDeclared : WellDeclared declared)
    (narrower : linked ⊆ wider) (known : wider ⊆ declared)
    (denotes : Denotes declared linked decl base target)
    (later : Denotes declared wider decl base other) : target = other := by
  have targetMem : target ∈ declared := known (narrower denotes.mem)
  have otherMem : other ∈ declared := known later.mem
  cases denotes with
  | dotted isDotted _ name =>
      cases later with
      | dotted _ _ otherName =>
          exact wellDeclared.eq_of_qualifiedName_eq targetMem otherMem
            (name.trans otherName.symm)
      | sameNamespace simple => simp [isDotted] at simple
      | elsewhere simple => simp [isDotted] at simple
  | sameNamespace simple _ path name =>
      cases later with
      | dotted isDotted => simp [simple] at isDotted
      | sameNamespace _ _ otherPath otherName =>
          apply wellDeclared.eq_of_ref_eq targetMem otherMem
          simp [Class.ref, path, name, otherPath, otherName]
      | elsewhere _ absent => exact absurd name (absent target targetMem path)
  | elsewhere simple absent mem name _ =>
      cases later with
      | dotted isDotted => simp [simple] at isDotted
      | sameNamespace _ _ otherPath otherName =>
          exact absurd otherName (absent other otherMem otherPath)
      | elsewhere _ _ _ _ only => exact only target (narrower mem) name

/-- A base that is found while classes are being linked keeps its meaning when all
are in view, unless other classes of that name turn up. -/
theorem widen (denotes : Denotes declared linked decl base target)
    (known : linked ⊆ declared) (named : decl.base = some base)
    (uncontested : ¬ Contested declared decl) : Denotes declared declared decl base target := by
  cases denotes with
  | dotted isDotted mem name => exact .dotted isDotted (known mem) name
  | sameNamespace simple mem path name => exact .sameNamespace simple (known mem) path name
  | elsewhere simple absent mem name _ =>
      refine .elsewhere simple absent (known mem) name ?_
      intro other otherMem otherName
      by_contra distinct
      exact uncontested ⟨base, named, simple, absent, other, otherMem, target, known mem,
        otherName, name, distinct⟩

theorem not_contested (denotes : Denotes declared declared decl base target)
    (named : decl.base = some base) : ¬ Contested declared decl := by
  rintro ⟨other, otherNamed, simple, absent, first, firstMem, second, secondMem,
    firstName, secondName, distinct⟩
  obtain rfl : base = other := Option.some.inj (named.symm.trans otherNamed)
  cases denotes with
  | dotted isDotted => simp [simple] at isDotted
  | sameNamespace _ mem path name => exact absent target mem path name
  | elsewhere _ _ _ _ only =>
      exact distinct ((only first firstMem firstName).trans (only second secondMem secondName).symm)

end Denotes

section Ancestors

variable {classes : List Class} {decl target : Class}

theorem InheritsFrom.mem (inherits : InheritsFrom classes decl target) : target ∈ classes :=
  let ⟨_, _, denotes⟩ := inherits
  denotes.mem

/-- Inheritance is single. -/
theorem InheritsFrom.unique {other : Class} (declared : WellDeclared classes)
    (inherits : InheritsFrom classes decl target) (again : InheritsFrom classes decl other) :
    target = other := by
  rcases inherits with ⟨base, named, denotes⟩
  rcases again with ⟨otherBase, otherNamed, otherDenotes⟩
  obtain rfl : base = otherBase := Option.some.inj (named.symm.trans otherNamed)
  exact denotes.eq_of_subset declared (List.Subset.refl _) (List.Subset.refl _) otherDenotes

/-- The list of ancestors holds exactly the classes that bases lead to. -/
theorem Ancestry.mem_iff {ancestors : List Class} (declared : WellDeclared classes)
    (ancestry : Ancestry classes decl ancestors) (ancestor : Class) :
    ancestor ∈ ancestors ↔ Relation.TransGen (InheritsFrom classes) decl ancestor := by
  induction ancestry with
  | root rootless =>
      simp only [List.not_mem_nil, false_iff]
      intro path
      rcases Relation.TransGen.head'_iff.mp path with ⟨_, ⟨base, named, _⟩, _⟩
      rw [rootless] at named
      contradiction
  | @derived decl target ancestors inherits _ ih =>
      rw [List.mem_cons, ih, ← Relation.reflTransGen_iff_eq_or_transGen,
        Relation.TransGen.head'_iff]
      constructor
      · intro path
        exact ⟨target, inherits, path⟩
      · rintro ⟨other, again, path⟩
        rw [inherits.unique declared again]
        exact path

/-- A base stands before the class that inherits from it. -/
theorem BaseFirst.idxOf_lt (baseFirst : BaseFirst classes) (declared : WellDeclared classes)
    (member : decl ∈ classes) (inherits : InheritsFrom classes decl target) :
    classes.idxOf target < classes.idxOf decl := by
  rcases List.append_of_mem member with ⟨before, after, split⟩
  rcases inherits with ⟨base, named, denotes⟩
  rcases baseFirst before decl after split base named with ⟨earlier, earlierMem, earlierDenotes⟩
  obtain rfl : target = earlier := InheritsFrom.unique declared
    ⟨base, named, denotes⟩ ⟨base, named, earlierDenotes⟩
  have fresh : decl ∉ before := declared.notMem_before split
  rw [split, List.idxOf_append, List.idxOf_append, if_pos earlierMem, if_neg fresh]
  have bound := List.idxOf_lt_length_of_mem earlierMem
  omega

/-- A base that stands first is not contested. -/
theorem BaseFirst.not_contested (baseFirst : BaseFirst classes) (member : decl ∈ classes) :
    ¬ Contested classes decl := by
  rintro ⟨base, named, rest⟩
  rcases List.append_of_mem member with ⟨before, after, split⟩
  rcases baseFirst before decl after split base named with ⟨_, _, denotes⟩
  exact denotes.not_contested named ⟨base, named, rest⟩

/-- No class is its own ancestor. -/
theorem BaseFirst.acyclic (baseFirst : BaseFirst classes) (declared : WellDeclared classes)
    (decl : Class) : ¬ Relation.TransGen (InheritsFrom classes) decl decl := by
  intro cycle
  have descends : ∀ ancestor, Relation.TransGen (InheritsFrom classes) decl ancestor →
      decl ∈ classes → classes.idxOf ancestor < classes.idxOf decl := by
    intro ancestor path member
    induction path with
    | single inherits => exact baseFirst.idxOf_lt declared member inherits
    | @tail middle ancestor path inherits ih =>
        have middleMem : middle ∈ classes := by
          cases path with
          | single first => exact first.mem
          | tail _ last => exact last.mem
        exact Nat.lt_trans (baseFirst.idxOf_lt declared middleMem inherits) ih
  have member : decl ∈ classes := by
    cases cycle with
    | single inherits => exact inherits.mem
    | tail _ inherits => exact inherits.mem
  exact absurd (descends decl cycle member) (Nat.lt_irrefl _)

end Ancestors

end VtableHeader
