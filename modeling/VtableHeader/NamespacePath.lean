/-!
# Namespace paths

A class lives in a namespace, given by the names of the namespaces around it from
the outside in.  In class descriptions a path is one dotted word, where the empty
word stands for the global namespace; in generated code every segment is
preceded by the scope operator.
-/

namespace VtableHeader

/-- A path of nested namespaces, outermost first. -/
structure NamespacePath where
  segments : List String
  deriving DecidableEq, Repr

namespace NamespacePath

/-- The global namespace. -/
def root : NamespacePath :=
  ⟨[]⟩

/-- Whether this is the global namespace. -/
def isRoot (path : NamespacePath) : Bool :=
  path.segments.isEmpty

/-- The pieces of a word between its dots, empty ones included. -/
def splitDots (word : String) : List String :=
  (word.toList.splitOn '.').map String.ofList

/-- The path that a dotted word spells.  Empty pieces are kept, so that a later
check can refuse them. -/
def ofDotted (word : String) : NamespacePath :=
  if word.isEmpty then root else ⟨splitDots word⟩

/-- The path as one dotted word. -/
def dotted (path : NamespacePath) : String :=
  ".".intercalate path.segments

/-- The path as a qualifier in generated code, with a leading scope operator. -/
def qualifier (path : NamespacePath) : String :=
  String.join (path.segments.map ("::" ++ ·))

@[simp]
theorem isRoot_iff {path : NamespacePath} : path.isRoot = true ↔ path = root := by
  cases path
  simp [isRoot, root]

@[simp]
theorem dotted_root : root.dotted = "" :=
  rfl

@[simp]
theorem qualifier_root : root.qualifier = "" :=
  rfl

end NamespacePath

end VtableHeader
