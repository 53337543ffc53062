import VtableHeader.Generator

/-!
# Pieces of a header

After its preamble a header is a sequence of pieces: lines that open or close a
namespace, empty lines, and the blocks that classes contribute.  A piece knows its
text.  Read from the front, the pieces can be replayed: an opening line adds a
namespace to the open ones, a closing line removes the innermost, and a block needs
exactly the namespaces of its class to be open.

The pieces of a pass over groups are given here, and replaying them never gets stuck.
-/

namespace VtableHeader

/-- What a class contributes to a header in one pass. -/
inductive Block where
  | forward (decl : Class)
  | body (decl : Class)
  | vtable (decl : Class) (slots : List Slot)
  deriving DecidableEq, Repr

namespace Block

/-- The class that a block belongs to. -/
def decl : Block → Class
  | .forward decl => decl
  | .body decl => decl
  | .vtable decl _ => decl

/-- The lines of a block. -/
def lines : Block → List Line
  | .forward decl => decl.forwardBlock
  | .body decl => decl.bodyBlock
  | .vtable decl slots => decl.vtableBlock slots

end Block

/-- A part of a header; the lines around namespaces are indented by the namespaces that
are open outside of them. -/
inductive Piece where
  | opening (depth : Nat) (segment : String)
  | closing (depth : Nat)
  | blank
  | block (content : Block)
  deriving DecidableEq, Repr

namespace Piece

/-- The text of a piece. -/
def text (indentUnit : String) : Piece → String
  | .opening depth segment =>
      String.join (List.replicate depth indentUnit) ++ "namespace " ++ segment ++ " \x7b\n"
  | .closing depth => String.join (List.replicate depth indentUnit) ++ "\x7d\n"
  | .blank => "\n"
  | .block content => Sections.blockText indentUnit 0 content.lines

/-- The block that a piece is. -/
def block? : Piece → Option Block
  | .block content => some content
  | _ => none

/-- The open namespaces after a piece.  Nothing can be closed when none is open, and a
block must stand inside the namespaces of its class. -/
def replay (scope : List String) : Piece → Option (List String)
  | .opening depth segment => if depth = scope.length then some (scope ++ [segment]) else none
  | .closing depth => if depth + 1 = scope.length then some scope.dropLast else none
  | .blank => some scope
  | .block content => if content.decl.path.segments = scope then some scope else none

/-- The generator writes the line that opens a namespace as a piece. -/
theorem text_opening_eq_lineText (indentUnit : String) (depth : Nat) (segment : String) :
    (opening depth segment).text indentUnit =
      Sections.lineText indentUnit depth { text := openingLine segment } := by
  simp [text, Sections.lineText, Sections.indentation, openingLine, String.append_assoc]

/-- So it does with the line that closes one. -/
theorem text_closing_eq_lineText (indentUnit : String) (depth : Nat) :
    (closing depth).text indentUnit =
      Sections.lineText indentUnit depth { text := closingLine } := by
  simp [text, Sections.lineText, Sections.indentation, closingLine, String.append_assoc]

end Piece

/-- The text of pieces. -/
def piecesText (indentUnit : String) (pieces : List Piece) : String :=
  String.join (pieces.map (Piece.text indentUnit))

/-- The open namespaces after pieces. -/
def replayAll (scope : List String) (pieces : List Piece) : Option (List String) :=
  pieces.foldlM Piece.replay scope

/-- The blocks among pieces. -/
def blocksOf (pieces : List Piece) : List Block :=
  pieces.filterMap Piece.block?

section Sequences

variable (indentUnit : String) (first second : List Piece)

@[simp]
theorem piecesText_nil : piecesText indentUnit [] = "" :=
  rfl

@[simp]
theorem piecesText_cons (piece : Piece) :
    piecesText indentUnit (piece :: first) =
      piece.text indentUnit ++ piecesText indentUnit first := by
  simp [piecesText]

@[simp]
theorem piecesText_append :
    piecesText indentUnit (first ++ second) =
      piecesText indentUnit first ++ piecesText indentUnit second := by
  simp [piecesText]

@[simp]
theorem blocksOf_append : blocksOf (first ++ second) = blocksOf first ++ blocksOf second := by
  simp [blocksOf]

@[simp]
theorem blocksOf_map_block (blocks : List Block) : blocksOf (blocks.map .block) = blocks := by
  simp [blocksOf, Function.comp_def, Piece.block?]

theorem replayAll_append {first second : List Piece} {scope middle : List String}
    (begins : replayAll scope first = some middle) :
    replayAll scope (first ++ second) = replayAll middle second := by
  unfold replayAll at begins ⊢
  rw [List.foldlM_append, begins]
  rfl

end Sequences

/-! ## Namespaces -/

/-- Lines that close the `count` innermost of `depth` namespaces. -/
def closings : Nat → Nat → List Piece
  | _, 0 => []
  | depth, count + 1 => .closing (depth - 1) :: closings (depth - 1) count

/-- Lines that open namespaces, each inside the one before it. -/
def openings : Nat → List String → List Piece
  | _, [] => []
  | depth, segment :: rest => .opening depth segment :: openings (depth + 1) rest

/-- An empty line where one is wanted. -/
def spacing (wanted : Prop) [Decidable wanted] : List Piece :=
  if wanted then [.blank] else []

/-- The lines between two namespaces: what they do not share is closed and opened, with an
empty line between the two and one at the end. -/
def crossing (scope segments : List String) : List Piece :=
  let common := commonDepth scope segments
  let count := scope.length - common
  let missing := segments.drop common
  closings scope.length count ++ spacing (0 < count ∧ common < segments.length) ++
    openings common missing ++ spacing (0 < count + missing.length)

section Crossing

theorem blocksOf_closings (depth count : Nat) : blocksOf (closings depth count) = [] := by
  induction count generalizing depth with
  | zero => rfl
  | succ count ih => exact ih (depth - 1)

theorem blocksOf_openings (depth : Nat) (segments : List String) :
    blocksOf (openings depth segments) = [] := by
  induction segments generalizing depth with
  | nil => rfl
  | cons segment rest ih => exact ih (depth + 1)

theorem blocksOf_spacing (wanted : Prop) [Decidable wanted] : blocksOf (spacing wanted) = [] := by
  unfold spacing
  split <;> rfl

theorem blocksOf_crossing (scope segments : List String) :
    blocksOf (crossing scope segments) = [] := by
  simp only [crossing, blocksOf_append, blocksOf_closings, blocksOf_openings, blocksOf_spacing,
    List.append_nil]

theorem replayAll_closings (scope : List String) {count : Nat} (enough : count ≤ scope.length) :
    replayAll scope (closings scope.length count) =
      some (scope.take (scope.length - count)) := by
  induction count generalizing scope with
  | zero => simp [closings, replayAll]
  | succ count ih =>
      have shorter : scope.dropLast.length = scope.length - 1 := List.length_dropLast
      have step : Piece.replay scope (.closing (scope.length - 1)) = some scope.dropLast := by
        simp only [Piece.replay]
        rw [if_pos (by omega)]
      have rest := ih scope.dropLast (by omega)
      rw [shorter] at rest
      simp only [closings, replayAll, List.foldlM_cons, step] at rest ⊢
      rw [Option.bind_eq_bind, Option.bind_some, rest, List.dropLast_eq_take, List.take_take]
      congr 2
      omega

theorem replayAll_openings (scope segments : List String) :
    replayAll scope (openings scope.length segments) = some (scope ++ segments) := by
  induction segments generalizing scope with
  | nil => simp [openings, replayAll]
  | cons segment rest ih =>
      have step : Piece.replay scope (.opening scope.length segment) =
          some (scope ++ [segment]) := by
        simp [Piece.replay]
      have longer : (scope ++ [segment]).length = scope.length + 1 := by simp
      have others := ih (scope ++ [segment])
      rw [longer] at others
      simp only [openings, replayAll, List.foldlM_cons, step] at others ⊢
      rw [Option.bind_eq_bind, Option.bind_some, others]
      simp

theorem replayAll_spacing (scope : List String) (wanted : Prop) [Decidable wanted] :
    replayAll scope (spacing wanted) = some scope := by
  unfold spacing
  split <;> rfl

/-- A crossing leads from one namespace to the other. -/
theorem replayAll_crossing (scope segments : List String) :
    replayAll scope (crossing scope segments) = some segments := by
  let common := commonDepth scope segments
  have bound : common ≤ scope.length := commonDepth_le_left scope segments
  have closed := replayAll_closings scope (Nat.sub_le scope.length common)
  have shared : scope.take (scope.length - (scope.length - common)) = scope.take common := by
    congr 1
    omega
  have depth : (scope.take common).length = common := by simp [bound]
  have opened := replayAll_openings (scope.take common) (segments.drop common)
  have whole : scope.take common ++ segments.drop common = segments := by
    rw [take_commonDepth scope segments, List.take_append_drop]
  rw [shared] at closed
  rw [depth, whole] at opened
  simp only [crossing, List.append_assoc]
  rw [replayAll_append closed, replayAll_append (replayAll_spacing _ _),
    replayAll_append opened, replayAll_spacing]

end Crossing

end VtableHeader
