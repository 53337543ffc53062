import VtableHeader.Class.Json
import VtableHeader.Json.Writer
import VtableHeader.Text.Outline
import VtableHeader.Text.Quoted

/-!
# Units of classes

A unit holds all classes of one header, every base before the classes that
inherit from it.  It is loaded from a JSON document, either a bare array of
classes or an object with the member `classes`, and can be written back or shown
as an outline.
-/

namespace VtableHeader

/-- The classes of one header. -/
structure ClassUnit where
  classes : List Class := []
  deriving DecidableEq, Repr

namespace ClassUnit

/-- Why a unit could not be loaded. -/
inductive LoadError where
  /-- The text is not JSON. -/
  | fault (fault : Json.Fault)
  /-- The document does not describe a unit. -/
  | mismatch
  deriving DecidableEq, Repr

/-- A unit is an array of classes, or an object that has one member `classes`. -/
def ofJson? : Json → Option ClassUnit
  | .object members => do
      let classes ← Json.uniqueMember? members "classes"
      return ⟨← Json.required (Json.arrayOf? Class.ofJson?) classes⟩
  | json => (Json.arrayOf? Class.ofJson? json).map ClassUnit.mk

/-- Encode a unit as an object. -/
def toJson (unit : ClassUnit) : Json :=
  .object [("classes", .array (unit.classes.map Class.toJson))]

/-- Load a unit.  A value is read completely before its shape is looked at, and
what follows it is looked at last. -/
def load (text : String) : Except LoadError ClassUnit :=
  match Json.readFull text.length text.toList with
  | .error fault => .error (.fault fault)
  | .ok (json, rest) =>
      match ofJson? json with
      | none => .error .mismatch
      | some unit =>
          if (Json.skipBlanks rest).isEmpty then .ok unit else .error (.fault .malformed)

/-- The unit as a JSON document. -/
def render (unit : ClassUnit) : String :=
  unit.toJson.render

open Text (Outline quoted)

/-- A quoted string as an outline. -/
def outlineText (text : String) : Outline :=
  .atom (quoted text)

/-- The outline of a path. -/
def outlinePath (path : NamespacePath) : Outline :=
  .record "NamespacePath" [("segments", .list (path.segments.map outlineText))]

/-- The outline of a parameter. -/
def outlineParam (param : Param) : Outline :=
  .record "Param" [("ty", outlineText param.typeName), ("name", outlineText param.name)]

/-- The outline of a field. -/
def outlineField (field : Field) : Outline :=
  .record "FieldDef" [("ty", outlineText field.typeName), ("name", outlineText field.name)]

/-- The outline of a method. -/
def outlineMethod (method : Method) : Outline :=
  .record "MethodDef"
    [("return_type", outlineText method.returnType), ("name", outlineText method.name),
      ("params", .list (method.params.map outlineParam)),
      ("is_override", .atom (if method.isOverride then "true" else "false"))]

/-- The outline of a class. -/
def outlineClass (decl : Class) : Outline :=
  .record "ClassDef"
    [("name", outlineText decl.name), ("namespace", outlinePath decl.path),
      ("base", .optional (decl.base.map outlineText)),
      ("fields", .list (decl.fields.map outlineField)),
      ("methods", .list (decl.methods.map outlineMethod))]

/-- The unit as an outline, for reading. -/
def outline (unit : ClassUnit) : String :=
  Outline.render
    (.record "TranslationUnit" [("classes", .list (unit.classes.map outlineClass))])

end ClassUnit

end VtableHeader
