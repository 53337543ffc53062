import Mathlib.Data.List.Forall2
import Mathlib.Data.List.Nodup
import VtableHeader.Proofs.UnitJson

/-!
# Spellings of a unit

One unit can be written in many ways.  It is a bare array of classes or an object around it; each
class, field, method and parameter is an object, with its members in any order and unknown ones
among them, or an array of its leading values; what has its default value may be left out; and a
namespace is an array of segments or one dotted word.  These choices are free at every place of the
tree.

A spelling is described by the fields of a record: each has a key, the values that spell it, and a
condition under which it may be missing.  Decoding is then proved once for records, and the main
result says that every text of every spelling of a unit is loaded as that unit.
-/

namespace VtableHeader

namespace Json

/-- A field of a record: its key, the values that spell it, and when it may be left out. -/
structure RecordField where
  key : String
  spells : Json → Prop
  mayMiss : Prop

namespace RecordField

/-- A field that is always written. -/
def always {α : Type} (key : String) (spells : α → Json → Prop) (value : α) : RecordField :=
  ⟨key, spells value, False⟩

/-- A field that may be left out where it has its default value. -/
def unlessDefault {α : Type} (key : String) (spells : α → Json → Prop) (default value : α) :
    RecordField :=
  ⟨key, spells value, value = default⟩

/-- Whether a decoder that meets `value` at the place of the field meets a spelling of it. -/
def Met (field : RecordField) : Option Json → Prop
  | some json => field.spells json
  | none => field.mayMiss

end RecordField

/-- The members of an object that spell the fields, in the order of the fields. -/
inductive WrittenMembers : List RecordField → List (String × Json) → Prop where
  | nil : WrittenMembers [] []
  | put {field : RecordField} {fields : List RecordField} {json : Json}
      {members : List (String × Json)} (spelled : field.spells json)
      (others : WrittenMembers fields members) :
      WrittenMembers (field :: fields) ((field.key, json) :: members)
  | leave {field : RecordField} {fields : List RecordField} {members : List (String × Json)}
      (optional : field.mayMiss) (others : WrittenMembers fields members) :
      WrittenMembers (field :: fields) members

/-- Values that spell the leading fields; the fields after them may all be left out. -/
inductive LeadingValues : List RecordField → List Json → Prop where
  | stop {fields : List RecordField} (optional : ∀ field ∈ fields, field.mayMiss) :
      LeadingValues fields []
  | next {field : RecordField} {fields : List RecordField} {json : Json} {items : List Json}
      (spelled : field.spells json) (others : LeadingValues fields items) :
      LeadingValues (field :: fields) (json :: items)

/-- An object that spells the fields, in any order and with unknown members anywhere. -/
def ObjectForm (fields : List RecordField) (json : Json) : Prop :=
  ∃ members written unknown, json = .object members ∧ WrittenMembers fields written ∧
    (∀ member ∈ unknown, member.1 ∉ fields.map RecordField.key) ∧
    members.Perm (written ++ unknown)

/-- A record is an object or an array of its leading values. -/
def RecordForm (fields : List RecordField) (json : Json) : Prop :=
  ObjectForm fields json ∨ ∃ items, json = .array items ∧ LeadingValues fields items

/-- An array that spells `values` item by item. -/
def ListForm {α : Type} (spells : α → Json → Prop) (values : List α) (json : Json) : Prop :=
  ∃ items, json = .array items ∧ List.Forall₂ spells values items

/-- A string is spelled by itself. -/
def StringForm (text : String) (json : Json) : Prop :=
  json = .string text

/-- A truth value is spelled by itself. -/
def BoolForm (value : Bool) (json : Json) : Prop :=
  json = .bool value

/-- A string that may be missing is spelled by itself or by `null`. -/
def NullableForm (text : Option String) (json : Json) : Prop :=
  json = text.elim .null .string

end Json

open Json

/-- A path is spelled by the array of its segments, or by any dotted word for it. -/
def NamespacePath.Spelled (path : NamespacePath) (json : Json) : Prop :=
  ListForm StringForm path.segments json ∨ ∃ word, json = .string word ∧ ofDotted word = path

/-- The fields of a parameter. -/
def Param.recordFields (param : Param) : List RecordField :=
  [.always "type" StringForm param.typeName, .unlessDefault "name" StringForm "" param.name]

/-- The values that spell a parameter. -/
def Param.Spelled (param : Param) : Json → Prop :=
  RecordForm param.recordFields

/-- The fields of a field of a class. -/
def Field.recordFields (field : Field) : List RecordField :=
  [.always "type" StringForm field.typeName, .always "name" StringForm field.name]

/-- The values that spell a field. -/
def Field.Spelled (field : Field) : Json → Prop :=
  RecordForm field.recordFields

/-- The fields of a method. -/
def Method.recordFields (method : Method) : List RecordField :=
  [.always "return_type" StringForm method.returnType, .always "name" StringForm method.name,
    .unlessDefault "params" (ListForm Param.Spelled) [] method.params,
    .unlessDefault "override" BoolForm false method.isOverride]

/-- The values that spell a method. -/
def Method.Spelled (method : Method) : Json → Prop :=
  RecordForm method.recordFields

/-- The fields of a class. -/
def Class.recordFields (decl : Class) : List RecordField :=
  [.always "name" StringForm decl.name,
    .unlessDefault "namespace" NamespacePath.Spelled .root decl.path,
    .unlessDefault "extends" NullableForm none decl.base,
    .unlessDefault "fields" (ListForm Field.Spelled) [] decl.fields,
    .unlessDefault "methods" (ListForm Method.Spelled) [] decl.methods]

/-- The values that spell a class. -/
def Class.Spelled (decl : Class) : Json → Prop :=
  RecordForm decl.recordFields

/-- The values that spell a unit: the array of its classes, alone or as a member of an object. -/
def ClassUnit.Spelled (unit : ClassUnit) (json : Json) : Prop :=
  ListForm Class.Spelled unit.classes json ∨
    ObjectForm [.always "classes" (ListForm Class.Spelled) unit.classes] json

namespace Json

/-! ## Decoding records -/

theorem filter_key_eq_nil {members : List (String × Json)} {key : String}
    (absent : ∀ member ∈ members, member.1 ≠ key) : members.filter (·.1 == key) = [] := by
  simpa using absent

theorem WrittenMembers.key_mem {fields : List RecordField} {members : List (String × Json)}
    (written : WrittenMembers fields members) {member : String × Json} (listed : member ∈ members) :
    member.1 ∈ fields.map RecordField.key := by
  induction written with
  | nil => simp at listed
  | put spelled others ih =>
      rcases List.mem_cons.mp listed with rfl | later
      · exact List.mem_cons_self
      · exact List.mem_cons_of_mem _ (ih later)
  | leave optional others ih => exact List.mem_cons_of_mem _ (ih listed)

theorem WrittenMembers.filter_eq_nil {fields : List RecordField} {members : List (String × Json)}
    (written : WrittenMembers fields members) {key : String}
    (fresh : key ∉ fields.map RecordField.key) : members.filter (·.1 == key) = [] :=
  filter_key_eq_nil fun _ listed equal => fresh (equal ▸ written.key_mem listed)

/-- An object that has the written members, up to their order and up to members with other keys, is
decoded field by field. -/
theorem WrittenMembers.exists_values {fields : List RecordField}
    {members written : List (String × Json)} (spelled : WrittenMembers fields written)
    (distinct : (fields.map RecordField.key).Nodup)
    (same : ∀ key ∈ fields.map RecordField.key,
      (members.filter (·.1 == key)).Perm (written.filter (·.1 == key))) :
    ∃ values, (fields.map RecordField.key).mapM (uniqueMember? members) = some values ∧
      List.Forall₂ RecordField.Met fields values := by
  induction spelled with
  | nil => exact ⟨[], rfl, .nil⟩
  | @put field fields json written spelled others ih =>
      obtain ⟨fresh, distinct⟩ := List.nodup_cons.mp distinct
      obtain ⟨sameHere, same⟩ := List.forall_mem_cons.mp same
      rw [List.filter_cons_of_pos (by simp), others.filter_eq_nil fresh,
        List.perm_singleton] at sameHere
      -- The member just met has a key of its own, so the other keys have the same members.
      have sameLater : ∀ key ∈ fields.map RecordField.key,
          (members.filter (·.1 == key)).Perm (written.filter (·.1 == key)) := by
        intro key listed
        have different : field.key ≠ key := fun equal => fresh (equal ▸ listed)
        have later := same key listed
        rwa [List.filter_cons_of_neg (by simpa using different)] at later
      obtain ⟨values, decoded, met⟩ := ih distinct sameLater
      have here : uniqueMember? members field.key = some (some json) := by
        rw [uniqueMember?, sameHere]
      refine ⟨some json :: values, ?_, .cons spelled met⟩
      rw [List.map_cons, List.mapM_cons, here, decoded]
      rfl
  | @leave field fields written optional others ih =>
      obtain ⟨fresh, distinct⟩ := List.nodup_cons.mp distinct
      obtain ⟨sameHere, same⟩ := List.forall_mem_cons.mp same
      rw [others.filter_eq_nil fresh, List.perm_nil] at sameHere
      obtain ⟨values, decoded, met⟩ := ih distinct same
      have here : uniqueMember? members field.key = some none := by
        rw [uniqueMember?, sameHere]
      refine ⟨none :: values, ?_, .cons optional met⟩
      rw [List.map_cons, List.mapM_cons, here, decoded]
      rfl

theorem ObjectForm.exists_values {fields : List RecordField} {json : Json}
    (form : ObjectForm fields json) (distinct : (fields.map RecordField.key).Nodup) :
    ∃ members values, json = .object members ∧
      (fields.map RecordField.key).mapM (uniqueMember? members) = some values ∧
      List.Forall₂ RecordField.Met fields values := by
  obtain ⟨members, written, unknown, rfl, spelled, strange, perm⟩ := form
  have same : ∀ key ∈ fields.map RecordField.key,
      (members.filter (·.1 == key)).Perm (written.filter (·.1 == key)) := by
    intro key listed
    have none : unknown.filter (·.1 == key) = [] :=
      filter_key_eq_nil fun member among equal => strange member among (equal ▸ listed)
    have filtered := perm.filter (·.1 == key)
    rwa [List.filter_append, none, List.append_nil] at filtered
  obtain ⟨values, decoded, met⟩ := spelled.exists_values distinct same
  exact ⟨members, values, rfl, decoded, met⟩

/-- Values that end early stand for missing ones. -/
theorem LeadingValues.met {fields : List RecordField} {items : List Json}
    (leading : LeadingValues fields items) :
    items.length ≤ fields.length ∧
      List.Forall₂ RecordField.Met fields
        (items.map some ++ List.replicate (fields.length - items.length) none) := by
  induction leading with
  | @stop fields optional =>
      refine ⟨Nat.zero_le _, ?_⟩
      induction fields with
      | nil => exact .nil
      | cons field others ih =>
          obtain ⟨here, later⟩ := List.forall_mem_cons.mp optional
          exact .cons here (ih later)
  | next spelled others ih =>
      -- One value and one field less: as many are missing as before.
      obtain ⟨shorter, met⟩ := ih
      refine ⟨Nat.succ_le_succ shorter, ?_⟩
      rw [List.length_cons, List.length_cons, Nat.add_sub_add_right]
      exact .cons spelled met

/-- A record in either form is decoded field by field. -/
theorem RecordForm.exists_record {fields : List RecordField} {json : Json}
    (form : RecordForm fields json) (distinct : (fields.map RecordField.key).Nodup) :
    ∃ values, json.record? (fields.map RecordField.key) = some values ∧
      List.Forall₂ RecordField.Met fields values := by
  rcases form with object | ⟨items, rfl, leading⟩
  · obtain ⟨members, values, rfl, decoded, met⟩ := object.exists_values distinct
    exact ⟨values, decoded, met⟩
  · obtain ⟨shorter, met⟩ := leading.met
    refine ⟨_, ?_, met⟩
    rw [record?, List.length_map, if_pos shorter]

section Fields

variable {α : Type} {key : String} {spells : α → Json → Prop} {decode : Json → Option α}

theorem required_of_met {value : α} {json : Option Json}
    (met : (RecordField.always key spells value).Met json)
    (decodes : ∀ json, spells value json → decode json = some value) :
    required decode json = some value := by
  cases json with
  | none => exact met.elim
  | some json => exact decodes json met

theorem defaulting_of_met {default value : α} {json : Option Json}
    (met : (RecordField.unlessDefault key spells default value).Met json)
    (decodes : ∀ json, spells value json → decode json = some value) :
    defaulting default decode json = some value := by
  cases json with
  | none => exact congrArg some (Eq.symm met)
  | some json => exact decodes json met

theorem arrayOf?_of_listForm {values : List α} {json : Json} (form : ListForm spells values json)
    (decodes : ∀ value json, spells value json → decode json = some value) :
    arrayOf? decode json = some values := by
  obtain ⟨items, rfl, spelled⟩ := form
  rw [arrayOf?]
  induction spelled with
  | nil => rfl
  | cons first others ih =>
      rw [List.mapM_cons, decodes _ _ first, ih]
      rfl

end Fields

theorem string?_of_stringForm {text : String} {json : Json} (form : StringForm text json) :
    string? json = some text := by
  rw [form]
  rfl

theorem bool?_of_boolForm {value : Bool} {json : Json} (form : BoolForm value json) :
    bool? json = some value := by
  rw [form]
  rfl

theorem nullable?_of_nullableForm {text : Option String} {json : Json}
    (form : NullableForm text json) : nullable? string? json = some text := by
  rw [form]
  cases text <;> rfl

end Json

theorem NamespacePath.ofJson?_of_spelled {path : NamespacePath} {json : Json}
    (spelled : path.Spelled json) : ofJson? json = some path := by
  rcases spelled with ⟨items, rfl, segments⟩ | ⟨word, rfl, rfl⟩
  · have decoded := arrayOf?_of_listForm ⟨items, rfl, segments⟩ fun _ _ => string?_of_stringForm
    rw [arrayOf?] at decoded
    rw [ofJson?, decoded]
    rfl
  · rfl

theorem Param.ofJson?_of_spelled {param : Param} {json : Json} (spelled : param.Spelled json) :
    ofJson? json = some param := by
  obtain ⟨values, decoded, met⟩ := RecordForm.exists_record spelled (show keys.Nodup by decide)
  match values, met with
  | [typeName, name], .cons typeMet (.cons nameMet .nil) =>
      have typeRead := required_of_met typeMet fun _ => string?_of_stringForm
      have nameRead := defaulting_of_met nameMet fun _ => string?_of_stringForm
      rw [ofJson?, show json.record? keys = _ from decoded]
      simp [typeRead, nameRead]

theorem Field.ofJson?_of_spelled {field : Field} {json : Json} (spelled : field.Spelled json) :
    ofJson? json = some field := by
  obtain ⟨values, decoded, met⟩ := RecordForm.exists_record spelled (show keys.Nodup by decide)
  match values, met with
  | [typeName, name], .cons typeMet (.cons nameMet .nil) =>
      have typeRead := required_of_met typeMet fun _ => string?_of_stringForm
      have nameRead := required_of_met nameMet fun _ => string?_of_stringForm
      rw [ofJson?, show json.record? keys = _ from decoded]
      simp [typeRead, nameRead]

theorem Method.ofJson?_of_spelled {method : Method} {json : Json} (spelled : method.Spelled json) :
    ofJson? json = some method := by
  obtain ⟨values, decoded, met⟩ := RecordForm.exists_record spelled (show keys.Nodup by decide)
  match values, met with
  | [returnType, name, params, isOverride],
      .cons returnMet (.cons nameMet (.cons paramsMet (.cons overrideMet .nil))) =>
      have returnRead := required_of_met returnMet fun _ => string?_of_stringForm
      have nameRead := required_of_met nameMet fun _ => string?_of_stringForm
      have paramsRead := defaulting_of_met paramsMet fun _ form =>
        arrayOf?_of_listForm form fun _ _ => Param.ofJson?_of_spelled
      have overrideRead := defaulting_of_met overrideMet fun _ => bool?_of_boolForm
      rw [ofJson?, show json.record? keys = _ from decoded]
      simp [returnRead, nameRead, paramsRead, overrideRead]

theorem Class.ofJson?_of_spelled {decl : Class} {json : Json} (spelled : decl.Spelled json) :
    ofJson? json = some decl := by
  obtain ⟨values, decoded, met⟩ := RecordForm.exists_record spelled (show keys.Nodup by decide)
  match values, met with
  | [name, path, base, fields, methods],
      .cons nameMet (.cons pathMet (.cons baseMet (.cons fieldsMet (.cons methodsMet .nil)))) =>
      have nameRead := required_of_met nameMet fun _ => string?_of_stringForm
      have pathRead := defaulting_of_met pathMet fun _ => NamespacePath.ofJson?_of_spelled
      have baseRead := defaulting_of_met baseMet fun _ => nullable?_of_nullableForm
      have fieldsRead := defaulting_of_met fieldsMet fun _ form =>
        arrayOf?_of_listForm form fun _ _ => Field.ofJson?_of_spelled
      have methodsRead := defaulting_of_met methodsMet fun _ form =>
        arrayOf?_of_listForm form fun _ _ => Method.ofJson?_of_spelled
      rw [ofJson?, show json.record? keys = _ from decoded]
      simp [nameRead, pathRead, baseRead, fieldsRead, methodsRead]

theorem ClassUnit.ofJson?_of_spelled {unit : ClassUnit} {json : Json}
    (spelled : unit.Spelled json) : ofJson? json = some unit := by
  rcases spelled with ⟨items, rfl, classes⟩ | object
  · have decoded := arrayOf?_of_listForm ⟨items, rfl, classes⟩ fun _ _ => Class.ofJson?_of_spelled
    rw [ofJson?, decoded]
    · rfl
    · simp
  · obtain ⟨members, values, rfl, decoded, met⟩ := object.exists_values (List.nodup_singleton _)
    match values, met with
    | [classes], .cons classesMet .nil =>
        have classesRead := required_of_met classesMet fun _ form =>
          arrayOf?_of_listForm form fun _ _ => Class.ofJson?_of_spelled
        have found : uniqueMember? members "classes" = some classes := by
          simpa [RecordField.always, Option.bind_eq_some_iff] using decoded
        rw [ofJson?, found]
        simp [classesRead]

/-- Every text of every spelling of a unit is loaded as that unit. -/
theorem ClassUnit.load_spelled {unit : ClassUnit} {json : Json} {text : String}
    (spelled : unit.Spelled json) (denotes : Json.Denotes nestingLimit text.toList json) :
    load text = .ok unit :=
  load_of_denotes denotes (ofJson?_of_spelled spelled)

/-- Two classes in different forms, inside an object with an unknown member. -/
def mixedText : String :=
  "\x7b\"note\" :-1.5,\"classes\":[[\"\\u0041\",\"x.y\"],\n" ++
    "\x7b\"extends\":\"A\",\"name\":\"B\"\x7d ]\x7d"

/-- The number in `mixedText`. -/
def mixedNote : Number :=
  { negative := true, whole := ['1'], fraction := ['5'] }

/-- The value of `mixedText`. -/
def mixedJson : Json :=
  .object
    [("note", .number mixedNote),
      ("classes", .array
        [.array [.string "A", .string "x.y"],
          .object [("extends", .string "A"), ("name", .string "B")]])]

/-- The unit that `mixedText` spells. -/
def mixedUnit : ClassUnit :=
  ⟨[{ name := "A", path := ⟨["x", "y"]⟩ }, { name := "B", base := some "A" }]⟩

theorem mixedUnit_spelled : mixedUnit.Spelled mixedJson := by
  have first : Class.Spelled { name := "A", path := ⟨["x", "y"]⟩ }
      (.array [.string "A", .string "x.y"]) :=
    .inr ⟨_, rfl, .next rfl (.next (.inr ⟨"x.y", rfl, by decide⟩)
      (.stop (by simp [RecordField.unlessDefault])))⟩
  have second : Class.Spelled { name := "B", base := some "A" }
      (.object [("extends", .string "A"), ("name", .string "B")]) :=
    .inl ⟨_, _, [], rfl, .put rfl (.leave rfl (.put rfl (.leave rfl (.leave rfl .nil)))),
      by simp, .swap _ _ []⟩
  exact .inr ⟨_, _, [("note", .number mixedNote)], rfl,
    .put ⟨_, rfl, .cons first (.cons second .nil)⟩ .nil, by simp [RecordField.always],
    .swap _ _ []⟩

theorem mixedText_denotes : Json.Denotes nestingLimit mixedText.toList mixedJson := by
  have key (text : String) (plain : text.toList.all isPlain = true) :
      CharsText text.toList text.toList :=
    charsText_of_isPlain plain
  have word (text : String) (plain : text.toList.all isPlain = true) :
      Json.Denotes 124 ('"' :: (text.toList ++ ['"'])) (.string text) := by
    simpa using @Json.Denotes.string 124 _ _ (key text plain)
  have first : Json.Denotes 125 "[\"\\u0041\",\"x.y\"]".toList
      (.array [.string "A", .string "x.y"]) := by
    have name : Json.Denotes 124 "\"\\u0041\"".toList (.string "A") :=
      @Json.Denotes.string 124 "\\u0041".toList ['A']
        (.cons (@CharText.unicode "0041".toList 0x41 ⟨rfl, rfl, rfl⟩ rfl rfl) .nil)
    exact @Json.Denotes.array 124 [(_, _), (_, _)] (List.cons_ne_nil _ _)
      (List.forall_mem_cons.mpr ⟨name, List.forall_mem_singleton.mpr (word "x.y" rfl)⟩)
  have second : Json.Denotes 125 "\n\x7b\"extends\":\"A\",\"name\":\"B\"\x7d ".toList
      (.object [("extends", .string "A"), ("name", .string "B")]) := by
    have object := @Json.Denotes.object 124
      [⟨("extends", _), [], "extends".toList, [], _⟩, ⟨("name", _), [], "name".toList, [], _⟩]
      (List.cons_ne_nil _ _)
      (List.forall_mem_cons.mpr ⟨key "extends" rfl, List.forall_mem_singleton.mpr (key "name" rfl)⟩)
      (by simp [Blanks])
      (List.forall_mem_cons.mpr ⟨word "A" rfl, List.forall_mem_singleton.mpr (word "B" rfl)⟩)
    exact @Json.Denotes.spaced 125 ['\n'] _ [' '] _ (by simp [Blanks, isBlank])
      (by simp [Blanks, isBlank]) object
  have classes := @Json.Denotes.array 125 [(_, _), (_, _)] (List.cons_ne_nil _ _)
    (List.forall_mem_cons.mpr ⟨first, List.forall_mem_singleton.mpr second⟩)
  have note : Json.Denotes 126 "-1.5".toList (.number mixedNote) := by
    have whole : WholeText mixedNote.whole := .inr ⟨by simp [Digits, mixedNote], by decide⟩
    exact @Json.Denotes.number 126 mixedNote ".5".toList [] whole
      (@FractionText.point ['5'] (by simp [Digits])) .absent (by decide)
  exact @Json.Denotes.object 126
    [⟨("note", _), [], "note".toList, [' '], _⟩, ⟨("classes", _), [], "classes".toList, [], _⟩]
    (List.cons_ne_nil _ _)
    (List.forall_mem_cons.mpr ⟨key "note" rfl, List.forall_mem_singleton.mpr (key "classes" rfl)⟩)
    (by simp [Blanks, isBlank])
    (List.forall_mem_cons.mpr ⟨note, List.forall_mem_singleton.mpr classes⟩)

/-- A text that mixes the forms is loaded. -/
theorem mixedText_loaded :
    mixedUnit.Spelled mixedJson ∧ Json.Denotes nestingLimit mixedText.toList mixedJson ∧
      ClassUnit.load mixedText = .ok mixedUnit :=
  ⟨mixedUnit_spelled, mixedText_denotes, ClassUnit.load_spelled mixedUnit_spelled mixedText_denotes⟩

end VtableHeader
