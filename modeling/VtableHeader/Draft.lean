import VtableHeader.Class.Check
import VtableHeader.Sections

/-!
# Drafts of a header

A draft is the text of a header under construction together with the namespaces
that are open at its end.  Switching to another namespace keeps what both paths
have in common open, closes the rest from the inside out, and opens what is
missing.
-/

namespace VtableHeader

/-- Text under construction and the open namespaces, outermost first. -/
structure Draft where
  sections : Sections := {}
  scope : List String := []
  deriving DecidableEq, Repr

/-- The number of leading segments that two paths have in common. -/
def commonDepth : List String → List String → Nat
  | first :: rest, other :: others =>
      if first = other then commonDepth rest others + 1 else 0
  | _, _ => 0

/-- The line that opens a namespace. -/
def openingLine (segment : String) : String :=
  "namespace " ++ segment ++ " \x7b"

/-- The line that closes a namespace. -/
def closingLine : String := "\x7d"

namespace Sections

/-- Close the `count` innermost namespaces of the head. -/
def closeNamespaces (sections : Sections) : Nat → Sections
  | 0 => sections
  | count + 1 => ((sections.dedent .head).line .head closingLine).closeNamespaces count

/-- Open namespaces in the head, each inside the one before it. -/
def openNamespaces (sections : Sections) (segments : List String) : Sections :=
  segments.foldl (fun sections segment =>
    (sections.line .head (openingLine segment)).indent .head) sections

end Sections

namespace NamespacePath

/-- Refuse a path with a segment that is not an identifier. -/
def check (path : NamespacePath) : Except GenError Unit :=
  checkIdentifiers path.dotted .namespaceSegment path.segments

end NamespacePath

namespace Draft

/-- Change the text only. -/
def onSections (draft : Draft) (change : Sections → Sections) : Draft :=
  { draft with sections := change draft.sections }

/-- Fix the text written so far. -/
def flush (draft : Draft) : Draft :=
  draft.onSections Sections.flush

/-- Close all namespaces beyond the first `depth`, and count the lines written. -/
def closeTo (draft : Draft) (depth : Nat) : Draft × Nat :=
  let count := draft.scope.length - depth
  ({ sections := draft.sections.closeNamespaces count, scope := draft.scope.take depth }, count)

/-- Close all namespaces, and count the lines written. -/
def closeAll (draft : Draft) : Draft × Nat :=
  draft.closeTo 0

/-- Make `segments` the open namespaces, and count the lines that open or close
one.  An empty line separates closings from openings. -/
def switchTo (draft : Draft) (segments : List String) : Draft × Nat :=
  let common := commonDepth draft.scope segments
  let missing := segments.drop common
  let (closed, count) := draft.closeTo common
  let spaced :=
    if 0 < count ∧ common < segments.length then closed.sections.blank .head
    else closed.sections
  ({ sections := spaced.openNamespaces missing, scope := closed.scope ++ missing },
    count + missing.length)

/-- Make `path` the current namespace, and count the lines that open or close one.
All segments are checked before anything is written.  The global namespace has
nothing to open, and leaves the draft as it is. -/
def openNamespace (draft : Draft) (path : NamespacePath) : Except GenError (Draft × Nat) := do
  path.check
  return if path.isRoot then (draft, 0) else draft.switchTo path.segments

/-- Make `path` the current namespace, where the global one closes all others. -/
def enterNamespace (draft : Draft) (path : NamespacePath) : Except GenError (Draft × Nat) :=
  if path.isRoot then .ok draft.closeAll else draft.openNamespace path

end Draft

/-! ## Laws -/

theorem commonDepth_le_left (first second : List String) :
    commonDepth first second ≤ first.length := by
  induction first generalizing second with
  | nil => simp [commonDepth]
  | cons segment rest ih =>
      cases second with
      | nil => simp [commonDepth]
      | cons other others =>
          unfold commonDepth
          split
          · simpa using ih others
          · simp

/-- Two paths agree as far as their common depth. -/
theorem take_commonDepth (first second : List String) :
    first.take (commonDepth first second) = second.take (commonDepth first second) := by
  induction first generalizing second with
  | nil => simp [commonDepth]
  | cons segment rest ih =>
      cases second with
      | nil => simp [commonDepth]
      | cons other others =>
          unfold commonDepth
          split
          case isTrue same => simp [same, ih others]
          case isFalse => simp

namespace Draft

@[simp]
theorem scope_onSections (draft : Draft) (change : Sections → Sections) :
    (draft.onSections change).scope = draft.scope :=
  rfl

@[simp]
theorem scope_closeTo (draft : Draft) (depth : Nat) :
    (draft.closeTo depth).1.scope = draft.scope.take depth :=
  rfl

@[simp]
theorem scope_closeAll (draft : Draft) : draft.closeAll.1.scope = [] := by
  simp [closeAll]

/-- Switching makes the wanted namespaces the open ones. -/
@[simp]
theorem scope_switchTo (draft : Draft) (segments : List String) :
    (draft.switchTo segments).1.scope = segments := by
  simp [switchTo, take_commonDepth]

end Draft

end VtableHeader
