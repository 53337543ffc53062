import VtableHeader.Class
import VtableHeader.Json.Reader
import VtableHeader.Json.Value

/-!
# Classes as JSON

Classes, fields, methods and parameters are records: objects with named members,
or arrays of the leading values.  Only names and types are required.  Written
values always have all members and never use the array form.
-/

namespace VtableHeader

open Json

namespace NamespacePath

/-- A path is an array of segments or one dotted string. -/
def ofJson? : Json → Option NamespacePath
  | .array items => (items.mapM string?).map NamespacePath.mk
  | .string word => some (ofDotted word)
  | _ => none

/-- A path is written as the array of its segments. -/
def toJson (path : NamespacePath) : Json :=
  .array (path.segments.map .string)

end NamespacePath

namespace Param

/-- The members of a parameter, in order. -/
def keys : List String := ["type", "name"]

/-- Decode a parameter; the name may be missing. -/
def ofJson? (json : Json) : Option Param := do
  let [typeName, name] ← json.record? keys | none
  some { typeName := ← required string? typeName, name := ← defaulting "" string? name }

/-- Encode a parameter. -/
def toJson (param : Param) : Json :=
  .object [("type", .string param.typeName), ("name", .string param.name)]

end Param

namespace Field

/-- The members of a field, in order. -/
def keys : List String := ["type", "name"]

/-- Decode a field. -/
def ofJson? (json : Json) : Option Field := do
  let [typeName, name] ← json.record? keys | none
  some { typeName := ← required string? typeName, name := ← required string? name }

/-- Encode a field. -/
def toJson (field : Field) : Json :=
  .object [("type", .string field.typeName), ("name", .string field.name)]

end Field

namespace Method

/-- The members of a method, in order. -/
def keys : List String := ["return_type", "name", "params", "override"]

/-- Decode a method; without the last two members it takes no parameter and
replaces nothing. -/
def ofJson? (json : Json) : Option Method := do
  let [returnType, name, params, isOverride] ← json.record? keys | none
  some
    { returnType := ← required string? returnType
      name := ← required string? name
      params := ← defaulting [] (arrayOf? Param.ofJson?) params
      isOverride := ← defaulting false bool? isOverride }

/-- Encode a method. -/
def toJson (method : Method) : Json :=
  .object
    [("return_type", .string method.returnType), ("name", .string method.name),
      ("params", .array (method.params.map Param.toJson)), ("override", .bool method.isOverride)]

end Method

namespace Class

/-- The members of a class, in order. -/
def keys : List String := ["name", "namespace", "extends", "fields", "methods"]

/-- Decode a class; only its name is required. -/
def ofJson? (json : Json) : Option Class := do
  let [name, path, base, fields, methods] ← json.record? keys | none
  some
    { name := ← required string? name
      path := ← defaulting .root NamespacePath.ofJson? path
      base := ← defaulting none (nullable? string?) base
      fields := ← defaulting [] (arrayOf? Field.ofJson?) fields
      methods := ← defaulting [] (arrayOf? Method.ofJson?) methods }

/-- Encode a class. -/
def toJson (decl : Class) : Json :=
  .object
    [("name", .string decl.name), ("namespace", decl.path.toJson),
      ("extends", match decl.base with | none => .null | some base => .string base),
      ("fields", .array (decl.fields.map Field.toJson)),
      ("methods", .array (decl.methods.map Method.toJson))]

/-- Read a record whose members are all read in full. -/
def readFlat (bound : Nat) (keys : List String) : Reader Json :=
  readRecord bound (keys.map fun key => (key, readFull bound))

/-- Read a method. -/
def readMethod (bound : Nat) : Reader Json :=
  readRecord bound
    [("return_type", readFull bound), ("name", readFull bound),
      ("params", readListOf bound (readFlat bound Param.keys)), ("override", readFull bound)]

/-- Read a class from a text of at most `bound` characters; the values of members
that no record knows are skimmed. -/
def read (bound : Nat) : Reader Json :=
  readRecord bound
    [("name", readFull bound), ("namespace", readFull bound), ("extends", readFull bound),
      ("fields", readListOf bound (readFlat bound Field.keys)),
      ("methods", readListOf bound (readMethod bound))]

/-- The class that a text describes, if it describes one and nothing else. -/
def parse? (text : String) : Option Class :=
  match read text.length text.toList with
  | .ok (json, rest) => if (skipBlanks rest).isEmpty then ofJson? json else none
  | .error _ => none

end Class

end VtableHeader
