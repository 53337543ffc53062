import Mathlib.Computability.RegularExpressions
import VtableHeader.Proofs.CheckedMembers

/-!
# Well-formed classes

Which classes pass their check, said without the order in which the check goes through them.
Names are the words that the pattern `[A-Za-z_][A-Za-z0-9_]*` matches, types have a character
that is not white space, and no member and no parameter shares its name with another one or
with one that the generator adds.
-/

namespace VtableHeader

open RegularExpression (matches'_add matches'_mul matches'_char matches'_zero matches'_star)

/-! ## The pattern of identifiers -/

/-- A choice of one character. -/
def oneOf (chars : List Char) : RegularExpression Char :=
  chars.foldr (fun char choice => .char char + choice) 0

/-- The characters from `first` to `last`. -/
def charsBetween (first last : Char) : List Char :=
  (List.range' first.toNat (last.toNat + 1 - first.toNat)).map Char.ofNat

/-- `[A-Za-z_]` -/
def startChars : List Char :=
  charsBetween 'A' 'Z' ++ charsBetween 'a' 'z' ++ ['_']

/-- `[A-Za-z0-9_]` -/
def partChars : List Char :=
  charsBetween 'A' 'Z' ++ charsBetween 'a' 'z' ++ charsBetween '0' '9' ++ ['_']

/-- `[A-Za-z_][A-Za-z0-9_]*` -/
def identifierPattern : RegularExpression Char :=
  oneOf startChars * (oneOf partChars).star

/-- A text that the pattern of identifiers matches. -/
def MatchesIdentifier (text : String) : Prop :=
  text.toList ∈ identifierPattern.matches'

section Pattern

variable {chars word : List Char} {char : Char}

theorem mem_matches'_oneOf_iff :
    word ∈ (oneOf chars).matches' ↔ ∃ char ∈ chars, word = [char] := by
  induction chars with
  | nil => simp [oneOf, matches'_zero, Language.notMem_zero]
  | cons first rest ih =>
      change word ∈ (.char first + oneOf rest : RegularExpression Char).matches' ↔ _
      rw [matches'_add, Language.mem_add, matches'_char, ih, List.exists_mem_cons_iff]
      rfl

/-- A starred choice matches the words over its characters. -/
theorem mem_matches'_star_oneOf_iff :
    word ∈ (oneOf chars).star.matches' ↔ ∀ char ∈ word, char ∈ chars := by
  rw [matches'_star, Language.mem_kstar]
  constructor
  · rintro ⟨letters, rfl, single⟩ char member
    rcases List.mem_flatten.mp member with ⟨letter, letterMem, inside⟩
    rcases mem_matches'_oneOf_iff.mp (single letter letterMem) with ⟨choice, choiceMem, rfl⟩
    rwa [List.mem_singleton.mp inside]
  · intro allowed
    refine ⟨word.map fun char => [char], ?_, ?_⟩
    · rw [← List.flatMap_def, List.flatMap_singleton']
    intro letter member
    rcases List.mem_map.mp member with ⟨char, charMem, rfl⟩
    exact mem_matches'_oneOf_iff.mpr ⟨char, allowed char charMem, rfl⟩

/-- Below the surrogates every code point is a character. -/
theorem mem_charsBetween_iff (first last : Char) (low : last.toNat < 0xd800) :
    char ∈ charsBetween first last ↔ first ≤ char ∧ char ≤ last := by
  simp only [Char.le_def, UInt32.le_iff_toNat_le]
  change _ ↔ first.toNat ≤ char.toNat ∧ char.toNat ≤ last.toNat
  unfold charsBetween
  rw [List.mem_map]
  simp only [List.mem_range'_1]
  constructor
  · rintro ⟨code, range, rfl⟩
    have valid : code.isValidChar := .inl (by omega)
    have same : (Char.ofNat code).toNat = code := by
      rw [Char.ofNat, dif_pos valid]
      rfl
    omega
  · intro range
    exact ⟨char.toNat, by omega, Char.ofNat_toNat char⟩

theorem isAlpha_iff :
    char.isAlpha = true ↔ char ∈ charsBetween 'A' 'Z' ∨ char ∈ charsBetween 'a' 'z' := by
  rw [mem_charsBetween_iff 'A' 'Z' (by decide), mem_charsBetween_iff 'a' 'z' (by decide)]
  change (decide ('A' ≤ char ∧ char ≤ 'Z') || decide ('a' ≤ char) && decide (char ≤ 'z')) = true ↔ _
  simp only [Bool.or_eq_true, Bool.and_eq_true, decide_eq_true_eq]

theorem isDigit_iff : char.isDigit = true ↔ char ∈ charsBetween '0' '9' := by
  rw [mem_charsBetween_iff '0' '9' (by decide)]
  change (decide ('0' ≤ char) && decide (char ≤ '9')) = true ↔ _
  simp only [Bool.and_eq_true, decide_eq_true_eq]

theorem isIdentifierStart_iff : isIdentifierStart char = true ↔ char ∈ startChars := by
  simp only [isIdentifierStart, startChars, Bool.or_eq_true, beq_iff_eq, isAlpha_iff,
    List.mem_append, List.mem_singleton]
  tauto

theorem isIdentifierPart_iff : isIdentifierPart char = true ↔ char ∈ partChars := by
  simp only [isIdentifierPart, partChars, Char.isAlphanum, Bool.or_eq_true, beq_iff_eq,
    isAlpha_iff, isDigit_iff, List.mem_append, List.mem_singleton]
  tauto

end Pattern

/-- Identifiers are the texts that the pattern matches. -/
theorem isIdentifier_iff_matches {text : String} :
    isIdentifier text = true ↔ MatchesIdentifier text := by
  unfold MatchesIdentifier identifierPattern isIdentifier
  rw [matches'_mul, Language.mem_mul]
  simp only [mem_matches'_oneOf_iff, mem_matches'_star_oneOf_iff]
  constructor
  · intro identifier
    split at identifier
    · contradiction
    case h_2 first rest shape =>
      rw [Bool.and_eq_true, List.all_eq_true] at identifier
      refine ⟨[first], ⟨first, isIdentifierStart_iff.mp identifier.1, rfl⟩, rest, ?_, shape.symm⟩
      exact fun char member => isIdentifierPart_iff.mp (identifier.2 char member)
  · rintro ⟨_, ⟨first, start, rfl⟩, rest, parts, shape⟩
    rw [← shape]
    simp only [List.singleton_append, Bool.and_eq_true, List.all_eq_true]
    exact ⟨isIdentifierStart_iff.mpr start,
      fun char member => isIdentifierPart_iff.mpr (parts char member)⟩

instance (text : String) : Decidable (MatchesIdentifier text) :=
  decidable_of_iff _ isIdentifier_iff_matches

example : MatchesIdentifier "_p1" ∧ ¬ MatchesIdentifier "1p" := by decide

/-- A type that is more than white space. -/
def NamesType (typeName : String) : Prop :=
  ∃ char ∈ typeName.toList, Text.whiteSpace.holds char = false

theorem isBlank_eq_false_iff {typeName : String} :
    Text.isBlank typeName = false ↔ NamesType typeName := by
  rw [← Bool.not_eq_true, Text.isBlank_iff]
  simp [NamesType]

namespace Class

/-- What a class has to be for its declarations to be well formed on their own. -/
structure WellFormed (decl : Class) : Prop where
  name : MatchesIdentifier decl.name
  segments : ∀ segment ∈ decl.path.segments, MatchesIdentifier segment
  base : ∀ base, decl.base = some base →
    ∀ piece ∈ NamespacePath.splitDots base, MatchesIdentifier piece
  fields : ∀ field ∈ decl.fields, MatchesIdentifier field.name ∧ NamesType field.typeName
  methods : ∀ method ∈ decl.methods,
    MatchesIdentifier method.name ∧ NamesType method.returnType
  params : ∀ method ∈ decl.methods, ∀ param ∈ method.params,
    NamesType param.typeName ∧ (param.name ≠ "" → MatchesIdentifier param.name)
  /-- Fields and methods have names of their own. -/
  members : (decl.fields.map (·.name) ++ decl.methods.map (·.name)).Nodup
  /-- No member is named like one that every class gets. -/
  reserved : ∀ name ∈ decl.fields.map (·.name) ++ decl.methods.map (·.name),
    name ∉ ["__vptr", "__class", "__vtable", "__is_a"]
  /-- Within a method, the parameters that are named have names of their own. -/
  paramNames : ∀ method ∈ decl.methods,
    ((method.params.map (·.name)).filter (· ≠ "")).Nodup
  /-- No parameter is named like the receiver. -/
  receiver : ∀ method ∈ decl.methods, ∀ param ∈ method.params, param.name ≠ "self"

theorem givenNames_eq (params : List Param) :
    givenNames params = (params.map (·.name)).filter (· ≠ "") := by
  unfold givenNames
  apply List.filter_congr
  intro name _
  by_cases unnamed : name = "" <;> simp [unnamed]

theorem mem_givenNames_iff {params : List Param} {name : String} :
    name ∈ givenNames params ↔ name ≠ "" ∧ ∃ param ∈ params, param.name = name := by
  rw [givenNames_eq, List.mem_filter, List.mem_map, and_comm, decide_eq_true_eq]

/-- Parameters are accepted when they are well formed within their method. -/
theorem checkParams_accepts_iff {context method : String} {params : List Param} :
    checkParams context method [receiverName] 0 params = .ok () ↔
      (∀ param ∈ params,
        NamesType param.typeName ∧ (param.name ≠ "" → MatchesIdentifier param.name)) ∧
      ((params.map (·.name)).filter (· ≠ "")).Nodup ∧
      ∀ param ∈ params, param.name ≠ "self" := by
  rw [checkParams_eq_ok_iff, NewNames, ← givenNames_eq]
  simp only [isBlank_eq_false_iff, isIdentifier_iff_matches, mem_givenNames_iff]
  constructor
  · rintro ⟨types, names, distinct, differ⟩
    refine ⟨fun param member => ⟨types param member, fun named => ?_⟩, distinct, ?_⟩
    · exact names param.name ⟨named, param, member, rfl⟩
    · intro param member same
      have named : param.name ≠ "" := by simp [same]
      exact differ param.name ⟨named, param, member, rfl⟩ (List.mem_singleton.mpr same)
  · rintro ⟨params, distinct, differ⟩
    refine ⟨fun param member => (params param member).1, ?_, distinct, ?_⟩
    · rintro _ ⟨named, param, member, rfl⟩
      exact (params param member).2 named
    · rintro _ ⟨_, param, member, rfl⟩ taken
      exact differ param member (List.mem_singleton.mp taken)

/-- Fields and methods are accepted when each is well formed and their names are new. -/
theorem checkMembers_accept_iff {context : String} {decl : Class} :
    (∃ seen, checkFields context generatedMembers decl.fields = .ok seen ∧
      checkMethods context seen decl.methods = .ok ()) ↔
      (∀ field ∈ decl.fields, MatchesIdentifier field.name ∧ NamesType field.typeName) ∧
      (∀ method ∈ decl.methods, MatchesIdentifier method.name ∧ NamesType method.returnType ∧
        checkParams context method.name [receiverName] 0 method.params = .ok ()) ∧
      NewNames generatedMembers decl.memberNames := by
  simp only [checkFields_eq_ok_iff, checkMethods_eq_ok_iff, memberNames, newNames_append_iff,
    isBlank_eq_false_iff, isIdentifier_iff_matches]
  constructor
  · rintro ⟨_, ⟨fields, newFields, rfl⟩, methods, newMethods⟩
    exact ⟨fields, methods, newFields, newMethods⟩
  · rintro ⟨fields, methods, newFields, newMethods⟩
    exact ⟨_, ⟨fields, newFields, rfl⟩, methods, newMethods⟩

/-- The check accepts exactly the well-formed classes. -/
theorem check_accepts_iff (decl : Class) : decl.check = .ok () ↔ decl.WellFormed := by
  rw [check_eq_ok_iff, checkMembers_accept_iff]
  simp only [isIdentifier_iff_matches, checkParams_accepts_iff]
  constructor
  · rintro ⟨name, segments, base, fields, methods, members, reserved⟩
    exact
      { name, segments, base, fields, members, reserved
        methods := fun method member => ⟨(methods method member).1, (methods method member).2.1⟩
        params := fun method member => (methods method member).2.2.1
        paramNames := fun method member => (methods method member).2.2.2.1
        receiver := fun method member => (methods method member).2.2.2.2 }
  · intro formed
    refine ⟨formed.name, formed.segments, formed.base, formed.fields, fun method member => ?_,
      formed.members, formed.reserved⟩
    exact ⟨(formed.methods method member).1, (formed.methods method member).2,
      formed.params method member, formed.paramNames method member,
      formed.receiver method member⟩

end Class

end VtableHeader
