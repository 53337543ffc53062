import VtableHeader.NamespacePath

/-!
# Classes

A class has single inheritance: it names at most one base, either simply or by
its dotted name.  Method bodies are not part of the description, only
signatures, and each method says whether it replaces an inherited one.  Nothing
is checked here; the generator reports what it cannot emit.
-/

namespace VtableHeader

/-- A parameter of a method.  An unnamed one is called after its position. -/
structure Param where
  typeName : String
  name : String := ""
  deriving DecidableEq, Repr

/-- A field of a class. -/
structure Field where
  typeName : String
  name : String
  deriving DecidableEq, Repr

/-- The signature of a method. -/
structure Method where
  returnType : String
  name : String
  params : List Param := []
  isOverride : Bool := false
  deriving DecidableEq, Repr

namespace Method

/-- Append a parameter. -/
def param (method : Method) (typeName name : String) : Method :=
  { method with params := method.params ++ [⟨typeName, name⟩] }

/-- Mark the method as replacing an inherited one. -/
def overriding (method : Method) : Method :=
  { method with isOverride := true }

end Method

/-- A class of the hierarchy. -/
structure Class where
  name : String
  path : NamespacePath := .root
  base : Option String := none
  fields : List Field := []
  methods : List Method := []
  deriving DecidableEq, Repr

namespace Class

/-- Put the class into the namespace with the given segments. -/
def inNamespace (decl : Class) (segments : List String) : Class :=
  { decl with path := ⟨segments⟩ }

/-- Let the class inherit from `base`. -/
def extending (decl : Class) (base : String) : Class :=
  { decl with base := some base }

/-- Append a field. -/
def field (decl : Class) (typeName name : String) : Class :=
  { decl with fields := decl.fields ++ [⟨typeName, name⟩] }

/-- Append a method. -/
def method (decl : Class) (method : Method) : Class :=
  { decl with methods := decl.methods ++ [method] }

/-- The dotted name that identifies the class in messages and in the class
table. -/
def qualifiedName (decl : Class) : String :=
  if decl.path.isRoot then decl.name else decl.path.dotted ++ "." ++ decl.name

end Class

/-- The identity of a class: its name and where it lives. -/
structure ClassRef where
  name : String
  path : NamespacePath
  deriving DecidableEq, Repr

/-- The identity of a class. -/
def Class.ref (decl : Class) : ClassRef :=
  ⟨decl.name, decl.path⟩

end VtableHeader
