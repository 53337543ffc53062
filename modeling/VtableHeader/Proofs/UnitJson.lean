import VtableHeader.ClassUnit
import VtableHeader.Proofs.WrittenJson

/-!
# Units survive JSON

A unit that is written as JSON and loaded again is the same unit, whatever its strings hold.  The
written form is the full one: every member is there, in order, and a path is the array of its
segments, so that a segment may be empty or hold dots.  The reader accepts other forms as well; here
it is shown that it takes the written one for what it is.

Two facts are put together.  Decoding undoes encoding, record by record; and the text of an encoded
unit denotes it, because it holds no number and is nested only seven deep.
-/

namespace VtableHeader

open Json

namespace Json

/-- Lists are decoded item by item. -/
theorem mapM_map {α : Type} {decode : Json → Option α} {encode : α → Json}
    (decodes : ∀ value, decode (encode value) = some value) (values : List α) :
    (values.map encode).mapM decode = some values := by
  induction values with
  | nil => rfl
  | cons value rest ih => simp [decodes, ih]

end Json

theorem NamespacePath.ofJson?_toJson (path : NamespacePath) : ofJson? path.toJson = some path := by
  have strings : ∀ text : String, string? (.string text) = some text := fun _ => rfl
  simp [ofJson?, toJson, mapM_map strings]

theorem Param.ofJson?_toJson (param : Param) : ofJson? param.toJson = some param :=
  rfl

theorem Field.ofJson?_toJson (field : Field) : ofJson? field.toJson = some field :=
  rfl

theorem Method.ofJson?_toJson (method : Method) : ofJson? method.toJson = some method := by
  change ((method.params.map Param.toJson).mapM Param.ofJson?).bind
    (fun params => some { method with params := params }) = some method
  rw [mapM_map Param.ofJson?_toJson]
  rfl

/-- A class without a base has a null in its place. -/
theorem Class.toJson_eq (decl : Class) :
    decl.toJson = .object
      [("name", .string decl.name), ("namespace", decl.path.toJson),
        ("extends", decl.base.elim .null .string),
        ("fields", .array (decl.fields.map Field.toJson)),
        ("methods", .array (decl.methods.map Method.toJson))] := by
  obtain ⟨name, path, base, fields, methods⟩ := decl
  cases base <;> rfl

theorem Class.ofJson?_toJson (decl : Class) : ofJson? decl.toJson = some decl := by
  have base : nullable? string? (decl.base.elim .null .string) = some decl.base := by
    cases decl.base <;> rfl
  rw [Class.toJson_eq]
  change (NamespacePath.ofJson? decl.path.toJson).bind (fun path =>
    (nullable? string? (decl.base.elim .null .string)).bind
      fun base => ((decl.fields.map Field.toJson).mapM Field.ofJson?).bind fun fields =>
        ((decl.methods.map Method.toJson).mapM Method.ofJson?).bind fun methods =>
          some { name := decl.name, path, base, fields, methods }) = some decl
  rw [NamespacePath.ofJson?_toJson, base, mapM_map Field.ofJson?_toJson,
    mapM_map Method.ofJson?_toJson]
  rfl

theorem ClassUnit.ofJson?_toJson (unit : ClassUnit) : ofJson? unit.toJson = some unit := by
  change ((unit.classes.map Class.toJson).mapM Class.ofJson?).bind
    (fun classes => some ⟨classes⟩) = some unit
  rw [mapM_map Class.ofJson?_toJson]
  rfl

/-! ## Shape of encoded records -/

/-- An array of encoded values is one level deeper than they are. -/
theorem Json.plain_array_map {α : Type} {depth : Nat} {encode : α → Json}
    (plain : ∀ value, Plain depth (encode value)) (values : List α) :
    Plain (depth + 1) (.array (values.map encode)) := by
  apply Plain.array
  intro item member
  obtain ⟨value, _, rfl⟩ := List.mem_map.mp member
  exact plain value

section Shape

variable (depth : Nat)

theorem NamespacePath.plain_toJson (path : NamespacePath) : Plain (depth + 1) path.toJson :=
  plain_array_map .string path.segments

theorem Param.plain_toJson (param : Param) : Plain (depth + 1) param.toJson := by
  apply Plain.object
  simp only [List.forall_mem_cons]
  exact ⟨.string _, .string _, by simp⟩

theorem Field.plain_toJson (field : Field) : Plain (depth + 1) field.toJson := by
  apply Plain.object
  simp only [List.forall_mem_cons]
  exact ⟨.string _, .string _, by simp⟩

theorem Method.plain_toJson (method : Method) : Plain (depth + 3) method.toJson := by
  have params := plain_array_map (Param.plain_toJson depth) method.params
  apply Plain.object
  simp only [List.forall_mem_cons]
  exact ⟨.string _, .string _, params, .bool _, by simp⟩

theorem Class.plain_toJson (decl : Class) : Plain (depth + 5) decl.toJson := by
  have base : Plain (depth + 4) (decl.base.elim .null .string) := by
    cases decl.base with
    | none => exact .null
    | some base => exact .string base
  have fields := plain_array_map (Field.plain_toJson (depth + 2)) decl.fields
  have methods := plain_array_map (Method.plain_toJson depth) decl.methods
  rw [Class.toJson_eq]
  apply Plain.object
  simp only [List.forall_mem_cons]
  exact ⟨.string _, decl.path.plain_toJson (depth + 3), base, fields, methods, by simp⟩

theorem ClassUnit.plain_toJson (unit : ClassUnit) : Plain (depth + 7) unit.toJson := by
  have classes := plain_array_map (Class.plain_toJson depth) unit.classes
  apply Plain.object
  simp only [List.forall_mem_cons]
  exact ⟨classes, by simp⟩

end Shape

/-- A text that denotes a value which decodes to a unit is loaded as that unit. -/
theorem ClassUnit.load_of_denotes {unit : ClassUnit} {json : Json} {text : String}
    (denotes : Json.Denotes nestingLimit text.toList json) (decodes : ofJson? json = some unit) :
    load text = .ok unit := by
  have enough : text.toList.length ≤ text.length := by rw [String.length_toList]
  obtain ⟨left, read, same⟩ := denotes.readsAs (Nat.le_refl _) enough [] (by simp [Apart])
  rw [List.append_nil] at read
  rw [load, readFull, read]
  simp only [decodes, same]
  rfl

/-- A unit that is written and loaded again is the same unit. -/
theorem ClassUnit.load_render (unit : ClassUnit) : load unit.render = .ok unit := by
  have written : unit.render.toList = writeAt 0 unit.toJson := String.toList_ofList
  have plain : Plain nestingLimit unit.toJson := unit.plain_toJson 120
  have denotes := plain.denotes 0
  rw [← written] at denotes
  exact load_of_denotes denotes unit.ofJson?_toJson

end VtableHeader
