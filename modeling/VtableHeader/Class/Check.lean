import VtableHeader.Class
import VtableHeader.GenError
import VtableHeader.Text.Blank

/-!
# Checking a class

A class is checked on its own before any of it is written: every name must be an
identifier, every type must be given, and no member may be declared twice or
clash with a member that the generator adds.  The checks run in a fixed order and
the first fault is reported.
-/

namespace VtableHeader

/-- Whether `char` may begin an identifier. -/
def isIdentifierStart (char : Char) : Bool :=
  char == '_' || char.isAlpha

/-- Whether `char` may continue an identifier. -/
def isIdentifierPart (char : Char) : Bool :=
  char == '_' || char.isAlphanum

/-- Whether `text` is an identifier of the generated code. -/
def isIdentifier (text : String) : Bool :=
  match text.toList with
  | [] => false
  | first :: rest => isIdentifierStart first && rest.all isIdentifierPart

/-- Refuse a name that is not an identifier. -/
def checkIdentifier (context : String) (role : NameRole) (ident : String) :
    Except GenError Unit :=
  if isIdentifier ident then .ok () else .error (.invalidIdentifier context role ident)

/-- Refuse names of one role that are not identifiers. -/
def checkIdentifiers (context : String) (role : NameRole) (idents : List String) :
    Except GenError Unit :=
  idents.forM (checkIdentifier context role)

/-- Refuse a blank type. -/
def checkType (context : String) (role : TypeRole) (typeName : String) : Except GenError Unit :=
  if Text.isBlank typeName then .error (.emptyTypeName context role) else .ok ()

namespace Class

/-- Members that the generator declares in every class. -/
def generatedMembers : List String :=
  ["__vptr", "__class", "__vtable", "__is_a"]

/-- The name of the receiver of every method. -/
def receiverName : String := "self"

/-- Check fields after the members in `seen`, and answer all members so far. -/
def checkFields (context : String) :
    List String → List Field → Except GenError (List String)
  | seen, [] => .ok seen
  | seen, field :: rest => do
      checkIdentifier context .fieldName field.name
      checkType context (.field field.name) field.typeName
      if field.name ∈ seen then
        throw (.duplicateMember context (.field field.name))
      checkFields context (field.name :: seen) rest

/-- Check the parameters of `method` from position `index` on.  An unnamed one is
called after its position later and needs no check of its name. -/
def checkParams (context method : String) :
    List String → Nat → List Param → Except GenError Unit
  | _, _, [] => .ok ()
  | seen, index, param :: rest => do
      checkType context (.param index method) param.typeName
      if param.name.isEmpty then
        checkParams context method seen (index + 1) rest
      else
        checkIdentifier context .paramName param.name
        if param.name ∈ seen then
          throw (.duplicateMember context (.param method param.name))
        checkParams context method (param.name :: seen) (index + 1) rest

/-- Check methods after the members in `seen`. -/
def checkMethods (context : String) : List String → List Method → Except GenError Unit
  | _, [] => .ok ()
  | seen, method :: rest => do
      checkIdentifier context .methodName method.name
      checkType context (.result method.name) method.returnType
      if method.name ∈ seen then
        throw (.duplicateMember context (.method method.name))
      checkParams context method.name [receiverName] 0 method.params
      checkMethods context (method.name :: seen) rest

/-- Refuse a class that would give malformed or repeated declarations. -/
def check (decl : Class) : Except GenError Unit := do
  let context := decl.qualifiedName
  checkIdentifier context .className decl.name
  checkIdentifiers context .namespaceSegment decl.path.segments
  checkIdentifiers context .baseName ((decl.base.map NamespacePath.splitDots).getD [])
  let seen ← checkFields context generatedMembers decl.fields
  checkMethods context seen decl.methods

end Class

end VtableHeader
