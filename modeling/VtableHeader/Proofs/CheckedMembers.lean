import Mathlib.Data.List.Nodup
import VtableHeader.Proofs.CheckedClass

/-!
# Checked members

The checks of fields, methods and parameters go through a list with the names that are already
taken.  What they accept is said here without the walk: the names of the list are identifiers,
are new to those taken before, and types are given.  What they report is a fault of the class
itself: `Misdeclares` has one case for each rule that a class can break on its own.
-/

namespace VtableHeader

/-- Distinct names, none of which is taken already. -/
def NewNames (taken names : List String) : Prop :=
  names.Nodup ∧ ∀ name ∈ names, name ∉ taken

section NewNames

variable {taken names others : List String} {name : String}

theorem newNames_nil : NewNames taken [] :=
  ⟨List.nodup_nil, by simp⟩

/-- Names are new one after another, each with the ones before it taken. -/
theorem newNames_cons_iff :
    NewNames taken (name :: names) ↔ name ∉ taken ∧ NewNames (name :: taken) names := by
  unfold NewNames
  rw [List.nodup_cons, List.forall_mem_cons]
  simp only [List.mem_cons, not_or]
  constructor
  · rintro ⟨⟨fresh, distinct⟩, new, rest⟩
    refine ⟨new, distinct, fun other member => ⟨?_, rest other member⟩⟩
    rintro rfl
    exact fresh member
  · rintro ⟨new, distinct, rest⟩
    exact ⟨⟨fun member => (rest name member).1 rfl, distinct⟩, new,
      fun other member => (rest other member).2⟩

theorem newNames_append_iff :
    NewNames taken (names ++ others) ↔
      NewNames taken names ∧ NewNames (names.reverse ++ taken) others := by
  induction names generalizing taken with
  | nil => simp [newNames_nil]
  | cons name rest ih =>
      rw [List.cons_append, newNames_cons_iff, ih, newNames_cons_iff, and_assoc]
      simp

end NewNames

/-- A check followed by something else fails when it fails itself, or else the other does. -/
theorem check_bind_eq_error_iff {ε α : Type} {check : Except ε Unit} {second : Except ε α}
    {error : ε} :
    (check >>= fun _ => second) = .error error ↔
      check = .error error ∨ check = .ok () ∧ second = .error error := by
  cases check with
  | error other => simp [bind, Except.bind]
  | ok answer => simp [bind, Except.bind]

/-- Checks over a list fail with the error of the first item that fails. -/
theorem forM_eq_error_iff {α : Type} {items : List α} {action : α → Except GenError Unit}
    {error : GenError} :
    items.forM action = .error error ↔
      ∃ before item after, items = before ++ item :: after ∧
        (∀ earlier ∈ before, action earlier = .ok ()) ∧ action item = .error error := by
  induction items with
  | nil => simp [pure, Except.pure]
  | cons first rest ih =>
      change (action first >>= fun _ => rest.forM action) = .error error ↔ _
      rw [check_bind_eq_error_iff, ih]
      constructor
      · rintro (failed | ⟨passed, before, item, after, rfl, earlier, failed⟩)
        · exact ⟨[], first, rest, rfl, by simp, failed⟩
        · exact ⟨first :: before, item, after, rfl,
            List.forall_mem_cons.mpr ⟨passed, earlier⟩, failed⟩
      · rintro ⟨before, item, after, split, earlier, failed⟩
        cases before with
        | nil =>
            cases split
            exact .inl failed
        | cons head tail =>
            cases split
            rcases List.forall_mem_cons.mp earlier with ⟨passed, earlier⟩
            exact .inr ⟨passed, tail, item, after, rfl, earlier, failed⟩

section Single

variable {context : String} {error : GenError}

@[simp]
theorem checkIdentifier_eq_error_iff {role : NameRole} {ident : String} :
    checkIdentifier context role ident = .error error ↔
      isIdentifier ident = false ∧ error = .invalidIdentifier context role ident := by
  unfold checkIdentifier
  rw [eq_comm (b := GenError.invalidIdentifier context role ident)]
  split <;> simp_all

theorem exists_of_checkIdentifiers_eq_error {role : NameRole} {idents : List String}
    (failed : checkIdentifiers context role idents = .error error) :
    ∃ ident ∈ idents, isIdentifier ident = false ∧
      error = .invalidIdentifier context role ident := by
  rcases forM_eq_error_iff.mp failed with ⟨before, ident, after, rfl, _, here⟩
  exact ⟨ident, by simp, checkIdentifier_eq_error_iff.mp here⟩

@[simp]
theorem checkType_eq_ok_iff {role : TypeRole} {typeName : String} :
    checkType context role typeName = .ok () ↔ Text.isBlank typeName = false := by
  unfold checkType
  split <;> simp_all

@[simp]
theorem checkType_eq_error_iff {role : TypeRole} {typeName : String} :
    checkType context role typeName = .error error ↔
      Text.isBlank typeName = true ∧ error = .emptyTypeName context role := by
  unfold checkType
  rw [eq_comm (b := GenError.emptyTypeName context role)]
  split <;> simp_all

/-- A name that is taken is refused. -/
theorem refused_eq_error_iff {α : Type} {taken : Prop} [Decidable taken] {refusal : GenError}
    {rest : Except GenError α} :
    (if taken then .error refusal else rest) = .error error ↔
      taken ∧ error = refusal ∨ ¬ taken ∧ rest = .error error := by
  rw [eq_comm (b := refusal)]
  split <;> simp_all

theorem refused_eq_ok_iff {ε α : Type} {taken : Prop} [Decidable taken] {refusal : ε}
    {rest : Except ε α} {answer : α} :
    (if taken then .error refusal else rest) = .ok answer ↔ ¬ taken ∧ rest = .ok answer := by
  split <;> simp_all

end Single

namespace Class

section Steps

variable (context : String) (seen : List String)

theorem checkFields_cons (field : Field) (rest : List Field) :
    checkFields context seen (field :: rest) = (do
      checkIdentifier context .fieldName field.name
      checkType context (.field field.name) field.typeName
      if field.name ∈ seen then .error (.duplicateMember context (.field field.name))
      else checkFields context (field.name :: seen) rest) := by
  rw [checkFields]
  by_cases repeated : field.name ∈ seen
  · simp only [repeated, if_true]
    rfl
  · simp only [repeated, if_false]

theorem checkParams_cons (method : String) (index : Nat) (param : Param) (rest : List Param) :
    checkParams context method seen index (param :: rest) = (do
      checkType context (.param index method) param.typeName
      if param.name.isEmpty then checkParams context method seen (index + 1) rest
      else do
        checkIdentifier context .paramName param.name
        if param.name ∈ seen then .error (.duplicateMember context (.param method param.name))
        else checkParams context method (param.name :: seen) (index + 1) rest) := by
  rw [checkParams]
  by_cases repeated : param.name ∈ seen
  · simp only [repeated, if_true]
    rfl
  · simp only [repeated, if_false]

theorem checkMethods_cons (method : Method) (rest : List Method) :
    checkMethods context seen (method :: rest) = (do
      checkIdentifier context .methodName method.name
      checkType context (.result method.name) method.returnType
      if method.name ∈ seen then .error (.duplicateMember context (.method method.name))
      else do
        checkParams context method.name [receiverName] 0 method.params
        checkMethods context (method.name :: seen) rest) := by
  rw [checkMethods]
  by_cases repeated : method.name ∈ seen
  · simp only [repeated, if_true]
    rfl
  · simp only [repeated, if_false]

end Steps

/-! ## What is accepted -/

section Accepted

variable {context : String} {seen : List String}

/-- The names that parameters are given; unnamed ones have none. -/
def givenNames (params : List Param) : List String :=
  (params.map (·.name)).filter (!·.isEmpty)

/-- Fields are accepted when their names are identifiers and new, and their types are given;
their names are taken from then on. -/
theorem checkFields_eq_ok_iff {fields : List Field} {members : List String} :
    checkFields context seen fields = .ok members ↔
      (∀ field ∈ fields, isIdentifier field.name = true ∧ Text.isBlank field.typeName = false) ∧
        NewNames seen (fields.map (·.name)) ∧
        members = (fields.map (·.name)).reverse ++ seen := by
  induction fields generalizing seen with
  | nil => simp [checkFields, newNames_nil, eq_comm (b := seen)]
  | cons field rest ih =>
      rw [checkFields_cons, check_bind_eq_ok_iff, check_bind_eq_ok_iff, refused_eq_ok_iff, ih,
        checkIdentifier_eq_ok_iff, checkType_eq_ok_iff, List.map_cons, newNames_cons_iff,
        List.forall_mem_cons, List.reverse_cons, List.append_assoc, List.singleton_append]
      tauto

/-- Parameters are accepted when their types are given and the names among them are identifiers
and new. -/
theorem checkParams_eq_ok_iff {method : String} {index : Nat} {params : List Param} :
    checkParams context method seen index params = .ok () ↔
      (∀ param ∈ params, Text.isBlank param.typeName = false) ∧
        (∀ name ∈ givenNames params, isIdentifier name = true) ∧
        NewNames seen (givenNames params) := by
  induction params generalizing seen index with
  | nil => simp [checkParams, givenNames, newNames_nil]
  | cons param rest ih =>
      rw [checkParams_cons, check_bind_eq_ok_iff, checkType_eq_ok_iff, List.forall_mem_cons]
      cases unnamed : param.name.isEmpty with
      | true =>
          have given : givenNames (param :: rest) = givenNames rest := by
            simp [givenNames, unnamed]
          rw [if_pos rfl, ih, given]
          tauto
      | false =>
          have given : givenNames (param :: rest) = param.name :: givenNames rest := by
            simp [givenNames, unnamed]
          rw [if_neg (by simp), check_bind_eq_ok_iff, checkIdentifier_eq_ok_iff,
            refused_eq_ok_iff, ih, given, newNames_cons_iff, List.forall_mem_cons]
          tauto

/-- Methods are accepted when their names are identifiers and new, their types are given, and
their parameters are accepted. -/
theorem checkMethods_eq_ok_iff {methods : List Method} :
    checkMethods context seen methods = .ok () ↔
      (∀ method ∈ methods, isIdentifier method.name = true ∧
        Text.isBlank method.returnType = false ∧
        checkParams context method.name [receiverName] 0 method.params = .ok ()) ∧
        NewNames seen (methods.map (·.name)) := by
  induction methods generalizing seen with
  | nil => simp [checkMethods, newNames_nil]
  | cons method rest ih =>
      rw [checkMethods_cons, check_bind_eq_ok_iff, check_bind_eq_ok_iff, refused_eq_ok_iff,
        check_bind_eq_ok_iff, ih, checkIdentifier_eq_ok_iff, checkType_eq_ok_iff, List.map_cons,
        newNames_cons_iff, List.forall_mem_cons]
      tauto

end Accepted

/-- The names of the fields and methods of a class, in the order of their declarations. -/
def memberNames (decl : Class) : List String :=
  decl.fields.map (·.name) ++ decl.methods.map (·.name)

/-- The members of a checked class are distinct, and differ from those that every class gets. -/
theorem newNames_memberNames_of_check {decl : Class} (checked : decl.check = .ok ()) :
    NewNames generatedMembers decl.memberNames := by
  rcases check_eq_ok_iff.mp checked with ⟨_, _, _, seen, fields, methods⟩
  rcases checkFields_eq_ok_iff.mp fields with ⟨_, newFields, rfl⟩
  exact newNames_append_iff.mpr ⟨newFields, (checkMethods_eq_ok_iff.mp methods).2⟩

/-- The parameters of a checked class are given distinct names, none that of the receiver. -/
theorem newNames_givenNames_of_check {decl : Class} {method : Method}
    (checked : decl.check = .ok ()) (member : method ∈ decl.methods) :
    NewNames [receiverName] (givenNames method.params) := by
  rcases check_eq_ok_iff.mp checked with ⟨_, _, _, seen, _, methods⟩
  have accepted := ((checkMethods_eq_ok_iff.mp methods).1 method member).2.2
  exact (checkParams_eq_ok_iff.mp accepted).2.2

/-! ## What is reported -/

/-- A class breaks, on its own, the rule that an error stands for.  The error is reported at
`context`. -/
inductive Misdeclares (decl : Class) (context : String) : GenError → Prop where
  | className (malformed : isIdentifier decl.name = false) :
      Misdeclares decl context (.invalidIdentifier context .className decl.name)
  | namespaceSegment {segment : String} (member : segment ∈ decl.path.segments)
      (malformed : isIdentifier segment = false) :
      Misdeclares decl context (.invalidIdentifier context .namespaceSegment segment)
  | baseName {base piece : String} (named : decl.base = some base)
      (member : piece ∈ NamespacePath.splitDots base) (malformed : isIdentifier piece = false) :
      Misdeclares decl context (.invalidIdentifier context .baseName piece)
  | fieldName {field : Field} (member : field ∈ decl.fields)
      (malformed : isIdentifier field.name = false) :
      Misdeclares decl context (.invalidIdentifier context .fieldName field.name)
  | methodName {method : Method} (member : method ∈ decl.methods)
      (malformed : isIdentifier method.name = false) :
      Misdeclares decl context (.invalidIdentifier context .methodName method.name)
  | paramName {method : Method} {param : Param} (member : method ∈ decl.methods)
      (inside : param ∈ method.params) (named : param.name.isEmpty = false)
      (malformed : isIdentifier param.name = false) :
      Misdeclares decl context (.invalidIdentifier context .paramName param.name)
  | fieldType {field : Field} (member : field ∈ decl.fields)
      (missing : Text.isBlank field.typeName = true) :
      Misdeclares decl context (.emptyTypeName context (.field field.name))
  | resultType {method : Method} (member : method ∈ decl.methods)
      (missing : Text.isBlank method.returnType = true) :
      Misdeclares decl context (.emptyTypeName context (.result method.name))
  | paramType {method : Method} {index : Nat} {param : Param} (member : method ∈ decl.methods)
      (inside : method.params[index]? = some param)
      (missing : Text.isBlank param.typeName = true) :
      Misdeclares decl context (.emptyTypeName context (.param index method.name))
  | repeatedField {before after : List Field} {field : Field}
      (split : decl.fields = before ++ field :: after)
      (taken : field.name ∈ generatedMembers ++ before.map (·.name)) :
      Misdeclares decl context (.duplicateMember context (.field field.name))
  | repeatedMethod {before after : List Method} {method : Method}
      (split : decl.methods = before ++ method :: after)
      (taken : method.name ∈
        generatedMembers ++ decl.fields.map (·.name) ++ before.map (·.name)) :
      Misdeclares decl context (.duplicateMember context (.method method.name))
  | repeatedParam {method : Method} {before after : List Param} {param : Param}
      (member : method ∈ decl.methods) (split : method.params = before ++ param :: after)
      (named : param.name.isEmpty = false)
      (taken : param.name ∈ [receiverName] ++ before.map (·.name)) :
      Misdeclares decl context (.duplicateMember context (.param method.name param.name))

section Reported

variable {decl : Class} {context : String} {error : GenError}

/-- The names seen so far are those that were taken at first and those of the items gone through. -/
theorem cons_subset_concat {α : Type} {name : α → String} {seen taken : List String}
    {done : List α} {item : α} (known : seen ⊆ taken ++ done.map name) :
    name item :: seen ⊆ taken ++ (done ++ [item]).map name := by
  rw [List.map_append, ← List.append_assoc]
  exact List.cons_subset.mpr ⟨by simp, fun _ member => List.mem_append_left _ (known member)⟩

/-- Behind the fields `done`, what is reported of the others is a fault of the class. -/
theorem misdeclares_of_checkFields_eq_error {done fields : List Field} {seen : List String}
    (split : decl.fields = done ++ fields)
    (known : seen ⊆ generatedMembers ++ done.map (·.name))
    (failed : checkFields context seen fields = .error error) :
    decl.Misdeclares context error := by
  induction fields generalizing done seen with
  | nil => cases failed
  | cons field rest ih =>
      have member : field ∈ decl.fields := by simp [split]
      rw [checkFields_cons, check_bind_eq_error_iff, checkIdentifier_eq_error_iff,
        check_bind_eq_error_iff, checkType_eq_error_iff, refused_eq_error_iff] at failed
      rcases failed with ⟨malformed, rfl⟩ | ⟨_, ⟨missing, rfl⟩ | ⟨_, ⟨taken, rfl⟩ | ⟨_, later⟩⟩⟩
      · exact .fieldName member malformed
      · exact .fieldType member missing
      · exact .repeatedField split (known taken)
      · have next : decl.fields = (done ++ [field]) ++ rest := by simp [split]
        exact ih next (cons_subset_concat known) later

/-- Behind the parameters `done`, what is reported of the others is a fault of the class. -/
theorem misdeclares_of_checkParams_eq_error {method : Method} {done params : List Param}
    {seen : List String} {index : Nat} (member : method ∈ decl.methods)
    (split : method.params = done ++ params) (position : index = done.length)
    (known : seen ⊆ [receiverName] ++ done.map (·.name))
    (failed : checkParams context method.name seen index params = .error error) :
    decl.Misdeclares context error := by
  induction params generalizing done seen index with
  | nil => cases failed
  | cons param rest ih =>
      have inside : method.params[index]? = some param := by simp [split, position]
      have next : method.params = (done ++ [param]) ++ rest := by simp [split]
      have nextPosition : index + 1 = (done ++ [param]).length := by simp [position]
      rw [checkParams_cons, check_bind_eq_error_iff, checkType_eq_error_iff] at failed
      rcases failed with ⟨missing, rfl⟩ | ⟨_, failed⟩
      · exact .paramType member inside missing
      cases named : param.name.isEmpty with
      | true =>
          rw [named, if_pos rfl] at failed
          exact ih next nextPosition
            (List.subset_of_cons_subset (cons_subset_concat known)) failed
      | false =>
          rw [named, if_neg (by simp), check_bind_eq_error_iff, checkIdentifier_eq_error_iff,
            refused_eq_error_iff] at failed
          rcases failed with ⟨malformed, rfl⟩ | ⟨_, ⟨taken, rfl⟩ | ⟨_, later⟩⟩
          · exact .paramName member (List.mem_of_getElem? inside) named malformed
          · exact .repeatedParam member split named (known taken)
          · exact ih next nextPosition (cons_subset_concat known) later

/-- Behind the methods `done`, what is reported of the others is a fault of the class. -/
theorem misdeclares_of_checkMethods_eq_error {done methods : List Method} {seen : List String}
    (split : decl.methods = done ++ methods)
    (known : seen ⊆ generatedMembers ++ decl.fields.map (·.name) ++ done.map (·.name))
    (failed : checkMethods context seen methods = .error error) :
    decl.Misdeclares context error := by
  induction methods generalizing done seen with
  | nil => cases failed
  | cons method rest ih =>
      have member : method ∈ decl.methods := by simp [split]
      rw [checkMethods_cons, check_bind_eq_error_iff, checkIdentifier_eq_error_iff,
        check_bind_eq_error_iff, checkType_eq_error_iff, refused_eq_error_iff,
        check_bind_eq_error_iff] at failed
      rcases failed with ⟨malformed, rfl⟩ |
        ⟨_, ⟨missing, rfl⟩ | ⟨_, ⟨taken, rfl⟩ | ⟨_, params | ⟨_, later⟩⟩⟩⟩
      · exact .methodName member malformed
      · exact .resultType member missing
      · exact .repeatedMethod split (known taken)
      · exact misdeclares_of_checkParams_eq_error member (List.nil_append _).symm rfl
          (by simp) params
      · have next : decl.methods = (done ++ [method]) ++ rest := by simp [split]
        exact ih next (cons_subset_concat known) later

/-- What the check of a class reports is a fault of the class, at its dotted name. -/
theorem misdeclares_of_check_eq_error (failed : decl.check = .error error) :
    decl.Misdeclares decl.qualifiedName error := by
  unfold check at failed
  rw [check_bind_eq_error_iff, checkIdentifier_eq_error_iff, check_bind_eq_error_iff,
    check_bind_eq_error_iff] at failed
  rcases failed with ⟨malformed, rfl⟩ | ⟨_, segments | ⟨_, pieces | ⟨_, members⟩⟩⟩
  · exact .className malformed
  · rcases exists_of_checkIdentifiers_eq_error segments with ⟨segment, member, malformed, rfl⟩
    exact .namespaceSegment member malformed
  · rcases exists_of_checkIdentifiers_eq_error pieces with ⟨piece, member, malformed, rfl⟩
    cases named : decl.base with
    | none => simp [named] at member
    | some base => exact .baseName named (by simpa [named] using member) malformed
  · cases fields : checkFields decl.qualifiedName generatedMembers decl.fields with
    | error other =>
        rw [fields] at members
        cases members
        exact misdeclares_of_checkFields_eq_error (List.nil_append _).symm (by simp) fields
    | ok seen =>
        rw [fields] at members
        obtain ⟨_, _, rfl⟩ := checkFields_eq_ok_iff.mp fields
        refine misdeclares_of_checkMethods_eq_error (List.nil_append _).symm ?_ members
        intro name taken
        rw [List.mem_append, List.mem_reverse] at taken
        simpa [or_comm] using taken

end Reported

end Class

end VtableHeader
