/-!
# Sections of a header

A header is written in three sections at once: the head with the preamble and the
namespaces, the declarations of classes, and the vtables.  Each section has text
that waits to be rendered and an indentation depth of its own, so that a
namespace opened in the head does not shift the declarations.  A flush moves the
waiting text of all sections, in their order, behind the text that is already
fixed.
-/

namespace VtableHeader

/-- A section of the header, in the order of rendering. -/
inductive Section where
  /-- The preamble, and the lines that open and close namespaces. -/
  | head
  /-- Forward declarations and struct bodies. -/
  | classDecls
  /-- Vtable structs. -/
  | vtables
  deriving DecidableEq, Repr

/-- A line of a block, and how deep it stands inside the block. -/
structure Line where
  level : Nat := 0
  text : String
  deriving DecidableEq, Repr

/-- The empty line. -/
def Line.blank : Line :=
  { text := "" }

/-- What waits to be rendered in one section. -/
structure Pending where
  text : String := ""
  depth : Nat := 0
  deriving DecidableEq, Repr

/-- The text of a header under construction. -/
structure Sections where
  indentUnit : String := "    "
  head : Pending := {}
  classDecls : Pending := {}
  vtables : Pending := {}
  flushed : String := ""
  deriving DecidableEq, Repr

namespace Sections

/-- What waits in a section. -/
def pending (sections : Sections) : Section → Pending
  | .head => sections.head
  | .classDecls => sections.classDecls
  | .vtables => sections.vtables

/-- Change what waits in a section. -/
def update (sections : Sections) (place : Section) (change : Pending → Pending) : Sections :=
  match place with
  | .head => { sections with head := change sections.head }
  | .classDecls => { sections with classDecls := change sections.classDecls }
  | .vtables => { sections with vtables := change sections.vtables }

/-- The indentation of `text` at `depth`.  Empty text is never indented, so that
blank lines carry no spaces. -/
def indentation (unit : String) (depth : Nat) (text : String) : String :=
  if text.isEmpty then "" else String.join (List.replicate depth unit)

/-- As many line breaks as asked for. -/
def lineBreaks (count : Nat) : String :=
  String.ofList (List.replicate count '\n')

/-- Append text to a section, indented if wanted, followed by line breaks. -/
def write (sections : Sections) (place : Section) (text : String) (indented : Bool)
    (breaks : Nat) : Sections :=
  sections.update place fun pending =>
    let lead := if indented then indentation sections.indentUnit pending.depth text else ""
    { pending with text := pending.text ++ (lead ++ text ++ lineBreaks breaks) }

/-- Append one indented line. -/
def line (sections : Sections) (place : Section) (text : String) : Sections :=
  sections.write place text true 1

/-- Append an empty line. -/
def blank (sections : Sections) (place : Section) : Sections :=
  sections.write place "" false 1

/-- The text of a line in a block that begins at `depth`. -/
def lineText (unit : String) (depth : Nat) (line : Line) : String :=
  indentation unit (depth + line.level) line.text ++ line.text ++ "\n"

/-- The text of a block that begins at `depth`. -/
def blockText (unit : String) (depth : Nat) (block : List Line) : String :=
  String.join (block.map (lineText unit depth))

/-- Append the lines of a block to a section. -/
def block (sections : Sections) (place : Section) (lines : List Line) : Sections :=
  sections.update place fun pending =>
    { pending with text := pending.text ++ blockText sections.indentUnit pending.depth lines }

/-- Go one level deeper in a section. -/
def indent (sections : Sections) (place : Section) : Sections :=
  sections.update place fun pending => { pending with depth := pending.depth + 1 }

/-- Go one level back in a section; the outermost level stays where it is. -/
def dedent (sections : Sections) (place : Section) : Sections :=
  sections.update place fun pending => { pending with depth := pending.depth - 1 }

/-- The waiting text of all sections in their order. -/
def waiting (sections : Sections) : String :=
  sections.head.text ++ sections.classDecls.text ++ sections.vtables.text

/-- Everything written so far. -/
def render (sections : Sections) : String :=
  sections.flushed ++ sections.waiting

/-- Fix the waiting text of all sections in their order; depths are kept. -/
def flush (sections : Sections) : Sections :=
  { sections with
    head := { sections.head with text := "" }
    classDecls := { sections.classDecls with text := "" }
    vtables := { sections.vtables with text := "" }
    flushed := sections.render }

/-- The finished text. -/
def finish (sections : Sections) : String :=
  sections.flush.flushed

/-! ## Laws -/

@[simp]
theorem pending_update (sections : Sections) (place : Section) (change : Pending → Pending) :
    (sections.update place change).pending place = change (sections.pending place) := by
  cases place <;> rfl

/-- A change of one section leaves the others alone. -/
theorem pending_update_of_ne (sections : Sections) {place other : Section}
    (change : Pending → Pending) (distinct : other ≠ place) :
    (sections.update place change).pending other = sections.pending other := by
  cases place <;> cases other <;> simp_all [update, pending]

@[simp]
theorem flushed_update (sections : Sections) (place : Section) (change : Pending → Pending) :
    (sections.update place change).flushed = sections.flushed := by
  cases place <;> rfl

@[simp]
theorem indentUnit_update (sections : Sections) (place : Section) (change : Pending → Pending) :
    (sections.update place change).indentUnit = sections.indentUnit := by
  cases place <;> rfl

@[simp]
theorem waiting_flush (sections : Sections) : sections.flush.waiting = "" := by
  simp [flush, waiting]

@[simp]
theorem depth_flush (sections : Sections) (place : Section) :
    (sections.flush.pending place).depth = (sections.pending place).depth := by
  cases place <;> rfl

/-- A flush does not change what has been written. -/
@[simp]
theorem render_flush (sections : Sections) : sections.flush.render = sections.render := by
  simp [flush, render, waiting]

end Sections

end VtableHeader
