import VtableHeader.ClassTable
import VtableHeader.Class.Check

/-!
# Checked classes

What the check of a class promises to the rest of the generator.  Names that are
identifiers hold no dot, so the dotted name of a checked class can be split back
into its namespace and its simple name: two checked classes with one dotted name
are the same class as far as the class table can tell.

A base that is written without a dot is looked up under the dotted name that a
class of that name would have in the namespace of the derived class.
-/

namespace VtableHeader

/-- A sequence of two computations succeeds when both do. -/
theorem bind_eq_ok_iff {ε α β : Type} {first : Except ε α}
    {second : α → Except ε β} {answer : β} :
    (first >>= second) = .ok answer ↔
      ∃ middle, first = .ok middle ∧ second middle = .ok answer := by
  cases first with
  | error error =>
      constructor
      · intro impossible
        cases impossible
      · rintro ⟨middle, impossible, _⟩
        cases impossible
  | ok value =>
      constructor
      · intro result
        exact ⟨value, rfl, result⟩
      · rintro ⟨middle, same, result⟩
        cases same
        exact result

/-- The same for a check that answers nothing. -/
theorem check_bind_eq_ok_iff {ε α : Type} {check : Except ε Unit}
    {second : Except ε α} {answer : α} :
    (check >>= fun _ => second) = .ok answer ↔ check = .ok () ∧ second = .ok answer := by
  rw [bind_eq_ok_iff]
  constructor
  · rintro ⟨⟨⟩, passed, result⟩
    exact ⟨passed, result⟩
  · rintro ⟨passed, result⟩
    exact ⟨(), passed, result⟩

@[simp]
theorem checkIdentifier_eq_ok_iff {context : String} {role : NameRole} {ident : String} :
    checkIdentifier context role ident = .ok () ↔ isIdentifier ident = true := by
  unfold checkIdentifier
  split <;> simp_all

/-- Checks over a list succeed when each of them does. -/
theorem forM_eq_ok_iff {α : Type} {items : List α} {action : α → Except GenError Unit} :
    items.forM action = .ok () ↔ ∀ item ∈ items, action item = .ok () := by
  induction items with
  | nil => simp [pure, Except.pure]
  | cons item rest ih =>
      change (action item >>= fun _ => rest.forM action) = .ok () ↔ _
      rw [check_bind_eq_ok_iff, ih, List.forall_mem_cons]

@[simp]
theorem checkIdentifiers_eq_ok_iff {context : String} {role : NameRole}
    {idents : List String} :
    checkIdentifiers context role idents = .ok () ↔
      ∀ ident ∈ idents, isIdentifier ident = true := by
  unfold checkIdentifiers
  rw [forM_eq_ok_iff]
  simp

namespace Class

/-- Successful checks of methods leave no name twice, neither among them nor among
the members before them. -/
theorem nodup_of_checkMethods_eq_ok {context : String} {seen : List String}
    {methods : List Method} (checked : checkMethods context seen methods = .ok ()) :
    (methods.map (·.name)).Nodup ∧ ∀ name ∈ methods.map (·.name), name ∉ seen := by
  induction methods generalizing seen with
  | nil => simp
  | cons method rest ih =>
      unfold checkMethods at checked
      rcases check_bind_eq_ok_iff.mp checked with ⟨_, checked⟩
      rcases check_bind_eq_ok_iff.mp checked with ⟨_, checked⟩
      by_cases repeated : method.name ∈ seen
      · simp only [repeated, if_true] at checked
        cases checked
      · simp only [repeated, if_false] at checked
        rcases check_bind_eq_ok_iff.mp checked with ⟨_, checked⟩
        rcases ih checked with ⟨distinct, fresh⟩
        constructor
        · rw [List.map_cons, List.nodup_cons]
          refine ⟨fun member => ?_, distinct⟩
          exact fresh method.name member List.mem_cons_self
        · intro name member
          rcases List.mem_cons.mp member with rfl | member
          · exact repeated
          · exact fun inSeen => fresh name member (List.mem_cons_of_mem _ inSeen)

/-- A class passes its check when its own name, its namespace and the pieces of its
base are identifiers and its members pass theirs. -/
theorem check_eq_ok_iff {decl : Class} :
    decl.check = .ok () ↔
      isIdentifier decl.name = true ∧
        (∀ segment ∈ decl.path.segments, isIdentifier segment = true) ∧
        (∀ base, decl.base = some base →
          ∀ piece ∈ NamespacePath.splitDots base, isIdentifier piece = true) ∧
        ∃ seen, checkFields decl.qualifiedName generatedMembers decl.fields = .ok seen ∧
          checkMethods decl.qualifiedName seen decl.methods = .ok () := by
  unfold check
  rw [check_bind_eq_ok_iff, check_bind_eq_ok_iff, check_bind_eq_ok_iff, bind_eq_ok_iff,
    checkIdentifier_eq_ok_iff, checkIdentifiers_eq_ok_iff, checkIdentifiers_eq_ok_iff]
  cases decl.base <;> simp

theorem nodup_methods_of_check {decl : Class} (checked : decl.check = .ok ()) :
    (decl.methods.map (·.name)).Nodup := by
  rcases check_eq_ok_iff.mp checked with ⟨_, _, _, seen, _, methods⟩
  exact (nodup_of_checkMethods_eq_ok methods).1

end Class

/-! ## Dotted names -/

/-- Every character of an identifier may continue one. -/
theorem isIdentifierPart_of_mem {text : String} {char : Char}
    (identifier : isIdentifier text = true) (member : char ∈ text.toList) :
    isIdentifierPart char = true := by
  unfold isIdentifier at identifier
  split at identifier
  · contradiction
  case h_2 first rest shape =>
    rw [Bool.and_eq_true, List.all_eq_true] at identifier
    rcases List.mem_cons.mp (shape ▸ member) with rfl | later
    · have start := identifier.1
      simp only [isIdentifierStart, isIdentifierPart, Char.isAlphanum, Bool.or_eq_true] at start ⊢
      exact start.imp_right .inl
    · exact identifier.2 char later

/-- An identifier holds no dot. -/
theorem dot_notMem_of_isIdentifier {text : String} (identifier : isIdentifier text = true) :
    '.' ∉ text.toList :=
  fun member => absurd (isIdentifierPart_of_mem identifier member) (by decide)

/-- An identifier holds no colon. -/
theorem colon_notMem_of_isIdentifier {text : String} (identifier : isIdentifier text = true) :
    ':' ∉ text.toList :=
  fun member => absurd (isIdentifierPart_of_mem identifier member) (by decide)

/-- What a list is split at is in none of the pieces. -/
theorem notMem_of_mem_splitOn {α : Type} [DecidableEq α] {separator : α} {items piece : List α}
    (member : piece ∈ items.splitOn separator) : separator ∉ piece := by
  induction items generalizing piece with
  | nil => simp_all
  | cons item rest ih =>
      rw [List.splitOn_cons_eq_if_modifyHead] at member
      split at member
      case isTrue =>
          rcases List.mem_cons.mp member with rfl | later
          · exact List.not_mem_nil
          · exact ih later
      case isFalse other =>
          obtain ⟨first, others, pieces⟩ :=
            List.exists_cons_of_ne_nil (List.splitOn_ne_nil separator rest)
          rw [pieces] at ih member
          rcases List.mem_cons.mp member with rfl | later
          · have distinct : separator ≠ item := fun same => other (beq_iff_eq.mpr same.symm)
            exact List.not_mem_cons_of_ne_of_not_mem distinct (ih List.mem_cons_self)
          · exact ih (List.mem_cons_of_mem _ later)

/-- Splitting undoes joining when no piece holds the separator. -/
theorem map_splitOn_intercalate {separator : Char} {joint : String} {pieces : List String}
    (single : joint.toList = [separator]) (nonempty : pieces ≠ [])
    (plain : ∀ piece ∈ pieces, separator ∉ piece.toList) :
    ((joint.intercalate pieces).toList.splitOn separator).map String.ofList = pieces := by
  have separate : (joint.intercalate pieces).toList.splitOn separator =
      pieces.map String.toList := by
    rw [String.toList_intercalate, single]
    apply List.splitOn_intercalate
    · intro chars member
      rcases List.mem_map.mp member with ⟨piece, pieceMem, rfl⟩
      exact plain piece pieceMem
    · simpa using nonempty
  rw [separate, List.map_map]
  simp

namespace NamespacePath

theorem splitDots_intercalate {pieces : List String} (nonempty : pieces ≠ [])
    (dotless : ∀ piece ∈ pieces, '.' ∉ piece.toList) :
    splitDots (".".intercalate pieces) = pieces :=
  map_splitOn_intercalate (by simp) nonempty dotless

/-- A word without a dot is its only piece. -/
theorem splitDots_of_dot_notMem {word : String} (dotless : '.' ∉ word.toList) :
    splitDots word = [word] := by
  rw [splitDots, List.splitOn_eq_singleton dotless]
  simp

end NamespacePath

namespace Class

theorem qualifiedName_eq_intercalate (decl : Class) :
    decl.qualifiedName = ".".intercalate (decl.path.segments ++ [decl.name]) := by
  unfold qualifiedName
  by_cases global : decl.path.segments = []
  · simp [NamespacePath.isRoot, global]
  · rw [String.intercalate_append_of_ne_nil global (by simp)]
    simp [NamespacePath.isRoot, NamespacePath.dotted, global]

/-- The names of a class that make up its dotted name are identifiers. -/
def NamesIdentified (decl : Class) : Prop :=
  isIdentifier decl.name = true ∧ ∀ segment ∈ decl.path.segments, isIdentifier segment = true

theorem namesIdentified_of_check {decl : Class} (checked : decl.check = .ok ()) :
    decl.NamesIdentified :=
  let ⟨name, segments, _⟩ := check_eq_ok_iff.mp checked
  ⟨name, segments⟩

/-- No name that makes up the dotted name of the class holds a dot itself. -/
def Undotted (decl : Class) : Prop :=
  ∀ piece ∈ decl.path.segments ++ [decl.name], '.' ∉ piece.toList

instance (decl : Class) : Decidable decl.Undotted :=
  inferInstanceAs (Decidable (∀ piece ∈ decl.path.segments ++ [decl.name], '.' ∉ piece.toList))

theorem NamesIdentified.undotted {decl : Class} (identified : decl.NamesIdentified) :
    decl.Undotted := by
  intro piece member
  rcases List.mem_append.mp member with segment | name
  · exact dot_notMem_of_isIdentifier (identified.2 piece segment)
  · rw [List.mem_singleton.mp name]
    exact dot_notMem_of_isIdentifier identified.1

theorem splitDots_qualifiedName {decl : Class} (undotted : decl.Undotted) :
    NamespacePath.splitDots decl.qualifiedName = decl.path.segments ++ [decl.name] := by
  rw [qualifiedName_eq_intercalate]
  exact NamespacePath.splitDots_intercalate (by simp) undotted

theorem ref_eq_of_qualifiedName_eq {first second : Class} (firstUndotted : first.Undotted)
    (secondUndotted : second.Undotted) (same : first.qualifiedName = second.qualifiedName) :
    first.ref = second.ref := by
  have pieces := congrArg NamespacePath.splitDots same
  rw [splitDots_qualifiedName firstUndotted, splitDots_qualifiedName secondUndotted] at pieces
  rcases List.append_inj' pieces rfl with ⟨segments, names⟩
  rcases first with ⟨firstName, ⟨firstSegments⟩, _, _, _⟩
  rcases second with ⟨secondName, ⟨secondSegments⟩, _, _, _⟩
  simp_all [ref]

/-- Dotted names tell classes apart. -/
theorem qualifiedName_inj {first second : Class} (firstNames : first.NamesIdentified)
    (secondNames : second.NamesIdentified) :
    first.qualifiedName = second.qualifiedName ↔ first.ref = second.ref := by
  constructor
  · exact ref_eq_of_qualifiedName_eq firstNames.undotted secondNames.undotted
  · intro same
    have names : first.name = second.name := congrArg ClassRef.name same
    have paths : first.path = second.path := congrArg ClassRef.path same
    simp only [qualifiedName, names, paths]

end Class

namespace ClassTable

/-- A simple base is looked up under the dotted name of a class in the namespace of
the derived one. -/
theorem localKey_of_simple {decl : Class} {base : String} (simple : isDotted base = false) :
    localKey decl base = ({ name := base, path := decl.path } : Class).qualifiedName := by
  simp [localKey, Class.qualifiedName, simple]

theorem localKey_of_dotted {decl : Class} {base : String} (dotted : isDotted base = true) :
    localKey decl base = base := by
  simp [localKey, dotted]

/-- The base of a checked class, if it is simple, is an identifier. -/
theorem isIdentifier_of_simple_base {decl : Class} {base : String}
    (checked : decl.check = .ok ()) (named : decl.base = some base)
    (simple : isDotted base = false) : isIdentifier base = true := by
  rcases Class.check_eq_ok_iff.mp checked with ⟨_, _, pieces, _⟩
  have dotless : '.' ∉ base.toList := by
    simpa [isDotted] using simple
  have only := NamespacePath.splitDots_of_dot_notMem dotless
  exact pieces base named base (by simp [only])

/-- Among checked classes, the first look-up of a simple base finds the class of that
name in the namespace of the derived class. -/
theorem qualifiedName_eq_localKey_iff {decl target : Class} {base : String}
    (checked : decl.check = .ok ()) (targetChecked : target.check = .ok ())
    (named : decl.base = some base) (simple : isDotted base = false) :
    target.qualifiedName = localKey decl base ↔
      target.path = decl.path ∧ target.name = base := by
  have identified : ({ name := base, path := decl.path } : Class).NamesIdentified :=
    ⟨isIdentifier_of_simple_base checked named simple,
      (Class.namesIdentified_of_check checked).2⟩
  rw [localKey_of_simple simple,
    Class.qualifiedName_inj (Class.namesIdentified_of_check targetChecked) identified]
  simp [Class.ref, and_comm]

end ClassTable

end VtableHeader
