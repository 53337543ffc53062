import VtableHeader.Proofs.Passes
import VtableHeader.Proofs.Pieces

/-!
# What a draft holds

Text goes to three sections that are rendered one after the other, so that appending to
a section appends to the rendered text only if no later section has waiting text.  The
generator keeps to this order: it flushes, then writes namespace lines to the head, then
blocks to one other section.  `Sections.Holds` states what has been written so far and
which section was last; each operation of a pass is one step of it, and a pass over
groups appends the text of its pieces.
-/

namespace VtableHeader

namespace Sections

/-- No section behind `place` has waiting text. -/
def EndsAt (sections : Sections) : Section → Prop
  | .head => sections.classDecls.text = "" ∧ sections.vtables.text = ""
  | .classDecls => sections.vtables.text = ""
  | .vtables => True

/-- The text written so far ends in `place`; the head is indented by `depth`, the other
sections are not. -/
structure Holds (sections : Sections) (indentUnit written : String) (depth : Nat)
    (place : Section) : Prop where
  rendered : sections.render = written
  unit : sections.indentUnit = indentUnit
  ends : sections.EndsAt place
  headDepth : sections.head.depth = depth
  classDepth : sections.classDecls.depth = 0
  vtableDepth : sections.vtables.depth = 0

/-- Appending to the last section in use appends to the rendered text. -/
theorem render_update {sections : Sections} {place : Section} (change : Pending → Pending)
    {added : String} (ends : sections.EndsAt place)
    (appends : (change (sections.pending place)).text =
      (sections.pending place).text ++ added) :
    (sections.update place change).render = sections.render ++ added := by
  cases place with
  | head =>
      rcases ends with ⟨noClasses, noVtables⟩
      change (change sections.head).text = sections.head.text ++ added at appends
      simp [render, waiting, update, appends, noClasses, noVtables, String.append_assoc]
  | classDecls =>
      change sections.vtables.text = "" at ends
      change (change sections.classDecls).text = sections.classDecls.text ++ added at appends
      simp [render, waiting, update, appends, ends, String.append_assoc]
  | vtables =>
      change (change sections.vtables).text = sections.vtables.text ++ added at appends
      simp [render, waiting, update, appends, String.append_assoc]

namespace Holds

variable {sections : Sections} {indentUnit written : String} {depth : Nat} {place : Section}

theorem flush (holds : sections.Holds indentUnit written depth place) :
    sections.flush.Holds indentUnit written depth .head where
  rendered := by rw [render_flush, holds.rendered]
  unit := holds.unit
  ends := ⟨rfl, rfl⟩
  headDepth := holds.headDepth
  classDepth := holds.classDepth
  vtableDepth := holds.vtableDepth

/-- After the head any section may be written to. -/
theorem of_head (holds : sections.Holds indentUnit written depth .head) (place : Section) :
    sections.Holds indentUnit written depth place where
  rendered := holds.rendered
  unit := holds.unit
  ends := by
    cases place with
    | head => exact holds.ends
    | classDecls => exact holds.ends.2
    | vtables => trivial
  headDepth := holds.headDepth
  classDepth := holds.classDepth
  vtableDepth := holds.vtableDepth

/-- Nothing comes behind the vtables. -/
theorem to_vtables (holds : sections.Holds indentUnit written depth place) :
    sections.Holds indentUnit written depth .vtables :=
  { holds with ends := trivial }

/-! ## Lines in the head -/

/-- The head after more text and at another depth. -/
theorem with_head (holds : sections.Holds indentUnit written depth .head) (added : String)
    (newDepth : Nat) :
    { sections with head := ⟨sections.head.text ++ added, newDepth⟩ : Sections }.Holds indentUnit
      (written ++ added) newDepth .head where
  rendered := by
    rw [← holds.rendered]
    exact render_update (fun pending => ⟨pending.text ++ added, newDepth⟩) holds.ends rfl
  unit := holds.unit
  ends := holds.ends
  headDepth := rfl
  classDepth := holds.classDepth
  vtableDepth := holds.vtableDepth

theorem line (holds : sections.Holds indentUnit written depth .head) (text : String) :
    (sections.line .head text).Holds indentUnit
      (written ++ lineText indentUnit depth { text := text }) depth .head := by
  have step := holds.with_head (lineText indentUnit depth { text := text }) depth
  rw [← holds.unit, ← holds.headDepth] at step ⊢
  exact step

/-- A line of the preamble has an empty one behind it. -/
theorem paragraph (holds : sections.Holds indentUnit written depth .head) (text : String) :
    (sections.write .head text false 2).Holds indentUnit (written ++ (text ++ "\n\n")) depth
      .head := by
  have step := holds.with_head (text ++ "\n\n") depth
  rw [← holds.headDepth] at step ⊢
  rw [← String.empty_append (s := text)] at step
  exact step

theorem blank (holds : sections.Holds indentUnit written depth .head) :
    (sections.blank .head).Holds indentUnit (written ++ "\n") depth .head := by
  have step := holds.with_head "\n" depth
  rw [← holds.headDepth] at step ⊢
  exact step

theorem spaced (holds : sections.Holds indentUnit written depth .head) (wanted : Prop)
    [Decidable wanted] :
    (if wanted then sections.blank .head else sections).Holds indentUnit
      (written ++ piecesText indentUnit (spacing wanted)) depth .head := by
  unfold spacing
  split
  · simpa [Piece.text] using holds.blank
  · simpa using holds

theorem indent (holds : sections.Holds indentUnit written depth .head) :
    (sections.indent .head).Holds indentUnit written (depth + 1) .head := by
  have step := holds.with_head "" (depth + 1)
  rw [String.append_empty, String.append_empty, ← holds.headDepth] at step
  rw [← holds.headDepth]
  exact step

theorem dedent (holds : sections.Holds indentUnit written depth .head) :
    (sections.dedent .head).Holds indentUnit written (depth - 1) .head := by
  have step := holds.with_head "" (depth - 1)
  rw [String.append_empty, String.append_empty, ← holds.headDepth] at step
  rw [← holds.headDepth]
  exact step

theorem closeNamespaces (holds : sections.Holds indentUnit written depth .head) (count : Nat) :
    (sections.closeNamespaces count).Holds indentUnit
      (written ++ piecesText indentUnit (closings depth count)) (depth - count) .head := by
  induction count generalizing sections written depth with
  | zero => simpa [Sections.closeNamespaces, closings] using holds
  | succ count ih =>
      have rest := ih (holds.dedent.line closingLine)
      rw [Nat.sub_sub, Nat.add_comm 1 count, String.append_assoc] at rest
      rwa [closings, piecesText_cons, Piece.text_closing_eq_lineText]

theorem openNamespaces (holds : sections.Holds indentUnit written depth .head)
    (segments : List String) :
    (sections.openNamespaces segments).Holds indentUnit
      (written ++ piecesText indentUnit (openings depth segments))
      (depth + segments.length) .head := by
  induction segments generalizing sections written depth with
  | nil => simpa [Sections.openNamespaces, openings] using holds
  | cons segment rest ih =>
      have others := ih (holds.line (openingLine segment)).indent
      rw [Nat.add_assoc, Nat.add_comm 1, String.append_assoc] at others
      rwa [openings, piecesText_cons, Piece.text_opening_eq_lineText]

theorem block (holds : sections.Holds indentUnit written depth place) (below : place ≠ .head)
    (lines : List Line) :
    (sections.block place lines).Holds indentUnit
      (written ++ blockText indentUnit 0 lines) depth place := by
  have flat : (sections.pending place).depth = 0 := by
    cases place with
    | head => exact absurd rfl below
    | classDecls => exact holds.classDepth
    | vtables => exact holds.vtableDepth
  have rendered : (sections.block place lines).render =
      written ++ blockText indentUnit 0 lines := by
    rw [← holds.rendered, ← holds.unit, ← flat]
    exact render_update _ holds.ends rfl
  cases place with
  | head => exact absurd rfl below
  | classDecls => exact { holds with rendered := rendered }
  | vtables => exact { holds with rendered := rendered }

end Holds

end Sections

namespace Draft

/-- The text written so far, with the open namespaces as the depth of the head. -/
def Holds (draft : Draft) (indentUnit written : String) (place : Section) : Prop :=
  draft.sections.Holds indentUnit written draft.scope.length place

variable {draft : Draft} {indentUnit written : String} {place : Section}

theorem Holds.flush (holds : draft.Holds indentUnit written place) :
    draft.flush.Holds indentUnit written .head :=
  Sections.Holds.flush holds

@[simp]
theorem scope_movedTo (draft : Draft) (segments : List String) :
    (draft.movedTo segments).scope = segments := by
  unfold movedTo
  split <;> simp

/-- Moving to another namespace writes the crossing. -/
theorem Holds.movedTo (holds : draft.Holds indentUnit written .head) (segments : List String) :
    (draft.movedTo segments).Holds indentUnit
      (written ++ piecesText indentUnit (crossing draft.scope segments)) .head := by
  -- Closing lines, their spacing, opening lines and theirs are four steps of `Sections.Holds`.
  have bound := commonDepth_le_left draft.scope segments
  have closed := Sections.Holds.closeNamespaces holds
    (draft.scope.length - commonDepth draft.scope segments)
  rw [Nat.sub_sub_self bound] at closed
  have opened := (closed.spaced (0 < draft.scope.length - commonDepth draft.scope segments ∧
    commonDepth draft.scope segments < segments.length)).openNamespaces
      (segments.drop (commonDepth draft.scope segments))
  have whole := opened.spaced (0 < (draft.switchTo segments).2)
  have depth : commonDepth draft.scope segments +
      (segments.drop (commonDepth draft.scope segments)).length = segments.length := by
    have inside := congrArg List.length (take_commonDepth draft.scope segments)
    simp only [List.length_take, List.length_drop] at inside ⊢
    omega
  have sections : (draft.movedTo segments).sections =
      if 0 < (draft.switchTo segments).2 then (draft.switchTo segments).1.sections.blank .head
      else (draft.switchTo segments).1.sections := by
    unfold Draft.movedTo
    split <;> rfl
  rw [Holds, scope_movedTo, sections]
  rw [depth] at whole
  simp only [crossing, piecesText_append, String.append_assoc] at whole ⊢
  exact whole

/-- Blocks are appended one after another. -/
theorem Holds.writeBlocks (holds : draft.Holds indentUnit written place) (below : place ≠ .head)
    (block : Class → Block) (classes : List Class) :
    (Draft.writeBlocks place (fun decl => (block decl).lines) classes draft).Holds indentUnit
        (written ++ piecesText indentUnit ((classes.map block).map .block)) place ∧
      (Draft.writeBlocks place (fun decl => (block decl).lines) classes draft).scope =
        draft.scope := by
  induction classes generalizing draft written with
  | nil => simpa [Draft.writeBlocks] using holds
  | cons decl rest ih =>
      have step : (draft.onSections (·.block place (block decl).lines)).Holds indentUnit
          (written ++ Sections.blockText indentUnit 0 (block decl).lines) place :=
        Sections.Holds.block holds below (block decl).lines
      rcases ih step with ⟨others, scope⟩
      refine ⟨?_, scope⟩
      rw [String.append_assoc] at others
      rwa [List.map_cons, List.map_cons, piecesText_cons]

end Draft

/-- Finishing a draft closes what is open. -/
theorem Draft.Holds.finish {draft : Draft} {indentUnit written : String} {place : Section}
    (holds : draft.Holds indentUnit written place) :
    draft.flush.closeAll.1.sections.finish =
      written ++ piecesText indentUnit (closings draft.scope.length draft.scope.length) := by
  exact (Sections.Holds.closeNamespaces holds.flush draft.scope.length).rendered

/-- The pieces of a pass over groups that begins in `scope`. -/
def passPieces (block : Class → Block) :
    List String → List (NamespacePath × List Class) → List Piece
  | _, [] => []
  | scope, (path, classes) :: rest =>
      crossing scope path.segments ++ (classes.map block).map .block ++
        passPieces block path.segments rest

/-- The open namespaces after a pass over groups. -/
def scopeAfter : List String → List (NamespacePath × List Class) → List String
  | scope, [] => scope
  | _, (path, _) :: rest => scopeAfter path.segments rest

/-- A pass over groups appends its pieces. -/
theorem Draft.Holds.writeGroups {draft : Draft} {indentUnit written : String} {place : Section}
    (holds : draft.Holds indentUnit written .vtables) (below : place ≠ .head)
    (block : Class → Block) (groups : List (NamespacePath × List Class)) :
    (Draft.writeGroups place (fun decl => (block decl).lines) groups draft).Holds indentUnit
        (written ++ piecesText indentUnit (passPieces block draft.scope groups)) .vtables ∧
      (Draft.writeGroups place (fun decl => (block decl).lines) groups draft).scope =
        scopeAfter draft.scope groups := by
  induction groups generalizing draft written with
  | nil => simpa [Draft.writeGroups, passPieces, scopeAfter] using holds
  | cons group rest ih =>
      rcases group with ⟨path, classes⟩
      have entered := holds.flush.movedTo path.segments
      rcases Draft.Holds.writeBlocks (Sections.Holds.of_head entered place) below block classes with
        ⟨filled, scope⟩
      rw [Draft.scope_movedTo] at scope
      rcases ih (Sections.Holds.to_vtables filled) with ⟨others, last⟩
      rw [scope] at others last
      refine ⟨?_, last⟩
      simp only [passPieces, piecesText_append, String.append_assoc] at others ⊢
      exact others

end VtableHeader
