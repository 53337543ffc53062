/-!
# Errors of the generator

Each error carries the place it was found at: the dotted name of the class, or of
the namespace path that was being opened.  Messages, codes and hints are what the
user sees; the kinds tell faults of the input from faults of its order.
-/

namespace VtableHeader

/-- What a name is for. -/
inductive NameRole where
  | className
  | namespaceSegment
  | baseName
  | fieldName
  | methodName
  | paramName
  deriving DecidableEq, Repr

/-- What a type is the type of. -/
inductive TypeRole where
  | field (name : String)
  | result (method : String)
  | param (index : Nat) (method : String)
  deriving DecidableEq, Repr

/-- A member that is declared twice.  Parameters are members of their method. -/
inductive MemberRole where
  | field (name : String)
  | method (name : String)
  | param (owner name : String)
  deriving DecidableEq, Repr

/-- Why no header can be generated. -/
inductive GenError where
  | invalidIdentifier (context : String) (role : NameRole) (ident : String)
  | emptyTypeName (context : String) (role : TypeRole)
  | duplicateClass (className : String)
  | duplicateMember (className : String) (member : MemberRole)
  | unmarkedOverride (className method : String)
  | bodyBeforeForward (className : String)
  | baseNotEmitted (className base : String)
  | ambiguousBase (className base : String) (candidates : List String)
  | danglingOverride (className method : String)
  deriving DecidableEq, Repr

/-- Broad kinds of errors. -/
inductive ErrorKind where
  /-- A fault of one class or of the set of classes. -/
  | inputValidation
  /-- A class is used before it may be. -/
  | ordering
  /-- A method replaces nothing. -/
  | danglingOverride
  deriving DecidableEq, Repr

/-- `text` between backticks. -/
def ticked (text : String) : String :=
  "`" ++ text ++ "`"

/-- The wording for a name. -/
def NameRole.label : NameRole → String
  | .className => "class name"
  | .namespaceSegment => "namespace segment"
  | .baseName => "base class name"
  | .fieldName => "field name"
  | .methodName => "method name"
  | .paramName => "parameter name"

/-- The wording for a type. -/
def TypeRole.label : TypeRole → String
  | .field name => "field " ++ ticked name
  | .result method => "return of " ++ ticked method
  | .param index method => "parameter " ++ toString index ++ " of " ++ ticked method

/-- The wording for a member: its sort and its name. -/
def MemberRole.label : MemberRole → String
  | .field name => "field " ++ ticked name
  | .method name => "method " ++ ticked name
  | .param owner name => "parameter " ++ ticked (owner ++ "::" ++ name)

namespace GenError

/-- The message of an error. -/
def message : GenError → String
  | .invalidIdentifier context role ident =>
      "invalid " ++ role.label ++ " " ++ ticked ident ++ " in " ++ ticked context
  | .emptyTypeName context role =>
      "empty type name for " ++ role.label ++ " in " ++ ticked context
  | .duplicateClass className =>
      "class " ++ ticked className ++ " is declared more than once"
  | .duplicateMember className member =>
      member.label ++ " is declared more than once in " ++ ticked className
  | .unmarkedOverride className method =>
      "method " ++ ticked method ++ " of " ++ ticked className ++
        " reuses an inherited slot but is not marked as an override"
  | .bodyBeforeForward className =>
      "struct body for " ++ ticked className ++ " requested before its forward declaration"
  | .baseNotEmitted className base =>
      "base class " ++ ticked base ++ " of " ++ ticked className ++ " has not been emitted yet"
  | .ambiguousBase className base candidates =>
      "base class " ++ ticked base ++ " of " ++ ticked className ++ " is ambiguous: " ++
        ", ".intercalate candidates
  | .danglingOverride className method =>
      "method " ++ ticked method ++ " of " ++ ticked className ++
        " is marked as an override but no base class declares it"

/-- The kind of an error. -/
def kind : GenError → ErrorKind
  | .bodyBeforeForward .. | .baseNotEmitted .. => .ordering
  | .danglingOverride .. => .danglingOverride
  | _ => .inputValidation

/-- The code under which an error is documented. -/
def code : GenError → String
  | .invalidIdentifier .. => "jtrans::invalid_identifier"
  | .emptyTypeName .. => "jtrans::empty_type"
  | .duplicateClass .. => "jtrans::duplicate_class"
  | .duplicateMember .. => "jtrans::duplicate_member"
  | .unmarkedOverride .. => "jtrans::unmarked_override"
  | .bodyBeforeForward .. => "jtrans::body_before_forward"
  | .baseNotEmitted .. => "jtrans::base_not_emitted"
  | .ambiguousBase .. => "jtrans::ambiguous_base"
  | .danglingOverride .. => "jtrans::dangling_override"

/-- A hint on how to mend the input, for some errors. -/
def help : GenError → Option String
  | .invalidIdentifier .. =>
      some "identifiers must be non-empty and match [A-Za-z_][A-Za-z0-9_]*"
  | .duplicateClass .. => some "class names must be unique within their namespace"
  | .unmarkedOverride .. =>
      some "methods are keyed by name; set the override flag or rename the method"
  | .baseNotEmitted .. =>
      some "classes must be ordered so every base precedes its subclasses"
  | .ambiguousBase .. => some "use the dotted package name of the base class"
  | _ => none

end GenError

end VtableHeader
