import VtableHeader.Proofs.BlockText
import VtableHeader.Proofs.Preamble
import VtableHeader.Proofs.ReportedErrors

/-!
# What options change

Options say what the preamble names and how wide a level of indentation is.  Whether a unit has
a header does not depend on them, nor which error it is refused with: the generator decides by
its class table alone, which two runs with different options fill in the same way.  Behind the
preamble the header is one list of lines, each at a depth of its own, and the width only sets
how many spaces a level of depth takes.
-/

namespace VtableHeader

namespace Generator

variable {α β γ : Type}

/-- Two actions differ at most in what they write: from generators with the same class table
they answer the same and leave the same class table. -/
def Alike (first second : Action α) : Prop :=
  ∀ here there : Generator, here.table = there.table →
    (here.perform first).1 = (there.perform second).1 ∧
      (here.perform first).2.table = (there.perform second).2.table

theorem alike_pure (answer : α) : Alike (pure answer) (pure answer) :=
  fun _ _ same => ⟨rfl, same⟩

theorem alike_require (result : Except GenError α) : Alike (require result) (require result) :=
  fun _ _ same => ⟨rfl, same⟩

/-- The draft takes no part. -/
theorem alike_onDraft (first second : Draft → Draft) : Alike (onDraft first) (onDraft second) :=
  fun _ _ same => ⟨rfl, same⟩

theorem alike_onTable (change : ClassTable → ClassTable) :
    Alike (onTable change) (onTable change) :=
  fun _ _ same => ⟨rfl, congrArg change same⟩

theorem Alike.bind {first second : Action α} {firstRest secondRest : α → Action β}
    (begins : Alike first second)
    (continues : ∀ answer, Alike (firstRest answer) (secondRest answer)) :
    Alike (first >>= firstRest) (second >>= secondRest) := by
  intro here there same
  rw [perform_bind, perform_bind]
  obtain ⟨answers, tables⟩ := begins here there same
  cases outcome : here.perform first with
  | mk result middle =>
      cases otherOutcome : there.perform second with
      | mk otherResult otherMiddle =>
          rw [outcome, otherOutcome] at answers tables
          cases answers
          cases result with
          | error error => exact ⟨rfl, tables⟩
          | ok answer => exact continues answer middle otherMiddle tables

/-- What follows sees generators with the same class table. -/
theorem alike_current_bind {first second : Generator → Action β}
    (continues : ∀ here there, here.table = there.table → Alike (first here) (second there)) :
    Alike (current >>= first) (current >>= second) := by
  intro here there same
  rw [perform_current_bind, perform_current_bind]
  exact continues here there same here there same

/-- Two computations may answer differently, as long as what is seen of their answers is the same
and the rest depends on nothing else. -/
theorem alike_require_bind (view : α → γ) {first second : Except GenError α}
    {firstRest secondRest : α → Action β} (seen : first.map view = second.map view)
    (continues : ∀ here there, view here = view there →
      Alike (firstRest here) (secondRest there)) :
    Alike (require first >>= firstRest) (require second >>= secondRest) := by
  intro here there same
  rw [perform_bind, perform_bind, perform_require, perform_require]
  cases first with
  | error error =>
      cases second with
      | error other =>
          cases seen
          exact ⟨rfl, same⟩
      | ok value => cases seen
  | ok value =>
      cases second with
      | error other => cases seen
      | ok other => exact continues value other (Except.ok.inj seen) here there same

theorem Alike.map {first second : Action α} (alike : Alike first second) (change : α → β) :
    Alike (change <$> first) (change <$> second) := by
  rw [map_eq_pure_bind, map_eq_pure_bind]
  exact alike.bind fun answer => alike_pure (change answer)

theorem alike_forM {items : List α} {first second : α → Action Unit}
    (each : ∀ item, Alike (first item) (second item)) :
    Alike (items.forM first) (items.forM second) := by
  induction items with
  | nil => exact alike_pure ()
  | cons item rest ih => exact (each item).bind fun _ => ih

section Steps

variable (decl : Class)

theorem alike_requireNew : Alike (requireNew decl) (requireNew decl) := by
  refine alike_current_bind fun here there same => ?_
  rw [same]
  exact alike_require _

theorem alike_requireDeclared : Alike (requireDeclared decl) (requireDeclared decl) := by
  refine alike_current_bind fun here there same => ?_
  rw [same]
  exact alike_require _

theorem alike_declareForward : Alike (declareForward decl) (declareForward decl) :=
  (alike_require _).bind fun _ => (alike_requireNew decl).bind fun _ =>
    (alike_onDraft _ _).bind fun _ => alike_onTable _

theorem alike_declareBody : Alike (declareBody decl) (declareBody decl) :=
  (alike_requireDeclared decl).bind fun _ => alike_onDraft _ _

theorem alike_storeSlots (slots : List Slot) :
    Alike (storeSlots decl slots) (storeSlots decl slots) :=
  (alike_requireDeclared decl).bind fun _ => alike_onTable _

theorem alike_link : Alike (link decl) (link decl) := by
  refine alike_current_bind fun here there same => ?_
  rw [same]
  exact (alike_require _).bind fun _ => (alike_require _).bind fun slots =>
    alike_storeSlots decl slots

/-- The slots of a vtable do not depend on the text it is written to. -/
theorem map_snd_writeVtable (draft : Draft) (inherited : List Slot) :
    (draft.writeVtable decl inherited).map Prod.snd = decl.effectiveSlots inherited := by
  unfold Draft.writeVtable
  cases decl.effectiveSlots inherited <;> rfl

theorem alike_declareVtable : Alike (declareVtable decl) (declareVtable decl) := by
  refine (alike_requireDeclared decl).bind fun _ => alike_current_bind fun here there same => ?_
  rw [same]
  refine (alike_require _).bind fun inherited => alike_current_bind fun here there _ => ?_
  refine alike_require_bind Prod.snd ?_ ?_
  · rw [map_snd_writeVtable, map_snd_writeVtable]
  · rintro ⟨draft, slots⟩ ⟨otherDraft, _⟩ rfl
    exact (alike_onDraft _ _).bind fun _ => (alike_storeSlots decl slots).bind fun _ =>
      alike_pure slots

end Steps

/-- Whether a namespace can be entered does not depend on where the draft is. -/
theorem map_enterNamespace (draft : Draft) (path : NamespacePath) :
    (draft.enterNamespace path).map (fun _ => ()) = path.check := by
  unfold Draft.enterNamespace
  by_cases global : path.isRoot
  · rw [if_pos global, NamespacePath.isRoot_iff.mp global]
    rfl
  · rw [if_neg global, Draft.openNamespace]
    cases path.check <;> rfl

theorem alike_enterNamespace (path : NamespacePath) :
    Alike (enterNamespace path) (enterNamespace path) := by
  refine alike_current_bind fun here there _ => alike_require_bind (fun _ => ()) ?_ ?_
  · rw [map_enterNamespace, map_enterNamespace]
  · exact fun _ _ _ => alike_onDraft _ _

theorem alike_emitGroups {emit : Class → Action Unit} (each : ∀ decl, Alike (emit decl) (emit decl))
    (groups : List (NamespacePath × List Class)) :
    Alike (emitGroups emit groups) (emitGroups emit groups) :=
  alike_forM fun group => (alike_onDraft _ _).bind fun _ =>
    (alike_enterNamespace group.1).bind fun _ => alike_forM each

/-- A unit is emitted with the same success or error whatever has been written before. -/
theorem alike_emitUnit (unit : ClassUnit) : Alike (emitUnit unit) (emitUnit unit) := by
  have vtables (decl : Class) :
      Alike (discard (declareVtable decl)) (discard (declareVtable decl)) := by
    rw [discard_eq_map]
    exact (alike_declareVtable decl).map _
  exact (alike_emitGroups alike_declareForward _).bind fun _ =>
    (alike_forM alike_link).bind fun _ =>
      (alike_emitGroups alike_declareBody _).bind fun _ => alike_emitGroups vtables _

end Generator

/-- Options do not change which error a unit is refused with. -/
theorem ClassUnit.header_eq_error_of_options {unit : ClassUnit} {first : Options}
    {error : GenError} (refused : unit.header first = .error error) (second : Options) :
    unit.header second = .error error := by
  rw [header_eq_error_iff] at refused ⊢
  have same := (Generator.alike_emitUnit unit (.start first) (.start second) rfl).1
  exact same.symm.trans refused

/-! ## Lines at their depths -/

/-- The lines of a piece. -/
def Piece.lines : Piece → List Line
  | .opening depth segment => [⟨depth, openingLine segment⟩]
  | .closing depth => [⟨depth, closingLine⟩]
  | .blank => [.blank]
  | .block content => content.lines

section Blocks

variable (indentUnit : String)

theorem Piece.text_eq_blockText (piece : Piece) :
    piece.text indentUnit = Sections.blockText indentUnit 0 piece.lines := by
  cases piece with
  | opening depth segment =>
      rw [Piece.text_opening_eq_lineText]
      simp [Piece.lines, Sections.blockText, Sections.lineText]
  | closing depth =>
      rw [Piece.text_closing_eq_lineText]
      simp [Piece.lines, Sections.blockText, Sections.lineText]
  | blank =>
      simp [Piece.text, Piece.lines, Sections.blockText, Sections.lineText, Sections.indentation,
        Line.blank]
  | block content => rfl

/-- Pieces are one block. -/
theorem piecesText_eq_blockText (pieces : List Piece) :
    piecesText indentUnit pieces =
      Sections.blockText indentUnit 0 (pieces.flatMap Piece.lines) := by
  induction pieces with
  | nil => rfl
  | cons piece rest ih =>
      rw [piecesText_cons, ih, List.flatMap_cons, Sections.blockText_append,
        Piece.text_eq_blockText]

/-- Outermost lines are not indented. -/
theorem linesText_eq_blockText (lines : List String) :
    linesText lines = Sections.blockText indentUnit 0 (lines.map (Line.mk 0)) := by
  induction lines with
  | nil => rfl
  | cons line rest ih =>
      rw [List.map_cons, Sections.blockText_cons, ← ih]
      simp [linesText, Sections.lineText, Sections.indentation]

end Blocks

/-- The lines of a header behind its preamble are the same for all options. -/
theorem ClassUnit.exists_lines {unit : ClassUnit} {options : Options} {text : String}
    (accepted : unit.header options = .ok text) :
    ∃ lines, ∀ other : Options, unit.header other =
      .ok (linesText (preambleLines other.runtimeHeader other.runtimeNamespace) ++
        Sections.blockText other.indentUnit 0 lines) := by
  rcases header_eq_ok_iff.mp accepted with ⟨wellDeclared, uncontested, known, linked, _⟩
  refine ⟨(unitPieces unit.classes fun decl => (known decl).getD []).flatMap Piece.lines,
    fun other => header_eq_ok_iff.mpr ⟨wellDeclared, uncontested, known, linked, ?_⟩⟩
  rw [finish_emittedDraft, preambleText_eq, piecesText_eq_blockText]

/-- A line without the spaces that it begins with. -/
def stripped (line : String) : String :=
  String.ofList (line.toList.dropWhile (· = ' '))

/-- A text without the spaces that its lines begin with. -/
def unindented (text : String) : String :=
  "\n".intercalate ((textLines text).map stripped)

theorem textLines_append_lineBreak (first second : String) :
    textLines (first ++ "\n" ++ second) = textLines first ++ textLines second := by
  unfold textLines
  rw [← List.map_append, ← List.splitOn_append_cons_self]
  simp

/-- Spaces in front of a text are stripped with those of its first line. -/
theorem map_stripped_spaces_append {spaces : List Char} (blank : ∀ char ∈ spaces, char = ' ')
    (text : String) :
    (textLines (String.ofList spaces ++ text)).map stripped = (textLines text).map stripped := by
  induction spaces with
  | nil => simp
  | cons char rest ih =>
      rcases List.forall_mem_cons.mp blank with ⟨rfl, others⟩
      have chars : (String.ofList (' ' :: rest) ++ text).toList =
          ' ' :: (String.ofList rest ++ text).toList := by simp
      rw [← ih others]
      unfold textLines
      rw [chars, List.splitOn_cons_eq_if_modifyHead, if_neg (by decide)]
      cases (String.ofList rest ++ text).toList.splitOn '\n' with
      | nil => rfl
      | cons first others => simp [stripped]

section Indentation

variable {indentUnit : String} (blank : ∀ char ∈ indentUnit.toList, char = ' ')

include blank

theorem eq_space_of_mem_indentation {depth : Nat} {text : String} {char : Char}
    (member : char ∈ (Sections.indentation indentUnit depth text).toList) : char = ' ' := by
  unfold Sections.indentation at member
  split at member
  · simp at member
  · rw [String.toList_join, List.mem_flatMap] at member
    rcases member with ⟨level, levelMem, inside⟩
    rw [List.eq_of_mem_replicate levelMem] at inside
    exact blank char inside

/-- The stripped lines of a block are those of its texts, however wide it is indented. -/
theorem map_stripped_blockText (lines : List Line) :
    (textLines (Sections.blockText indentUnit 0 lines)).map stripped =
      lines.flatMap (fun line => (textLines line.text).map stripped) ++ [""] := by
  induction lines with
  | nil => simp [Sections.blockText, textLines, stripped]
  | cons line rest ih =>
      have blanks : ∀ char ∈ (Sections.indentation indentUnit (0 + line.level) line.text).toList,
          char = ' ' := fun _ member => eq_space_of_mem_indentation blank member
      have spaces := map_stripped_spaces_append blanks
      rw [String.ofList_toList] at spaces
      rw [Sections.blockText_cons, Sections.lineText, String.append_assoc, String.append_assoc,
        spaces, ← String.append_assoc, textLines_append_lineBreak, List.map_append, ih,
        List.flatMap_cons, List.append_assoc]

/-- The same for a block behind outermost lines. -/
theorem unindented_linesText_append (front : List String) (lines : List Line) :
    unindented (linesText front ++ Sections.blockText indentUnit 0 lines) =
      "\n".intercalate ((front.map (Line.mk 0) ++ lines).flatMap
        (fun line => (textLines line.text).map stripped) ++ [""]) := by
  rw [unindented, linesText_eq_blockText indentUnit, ← Sections.blockText_append,
    map_stripped_blockText blank]

end Indentation

theorem Options.eq_space_of_mem_indentUnit (options : Options) {char : Char}
    (member : char ∈ options.indentUnit.toList) : char = ' ' := by
  unfold Options.indentUnit at member
  rw [String.toList_ofList] at member
  exact List.eq_of_mem_replicate member

/-- Options never affect what a header means.  A unit is refused with the same error for all of
them or has a header for all of them.  Headers that are indented alike differ in their preambles
only, which are made of the runtime header and its namespace; headers with one preamble differ
in the spaces that their lines begin with. -/
theorem ClassUnit.headers_agree_of_options (unit : ClassUnit) (first second : Options) :
    (∃ error, unit.header first = .error error ∧ unit.header second = .error error) ∨
    ∃ firstText secondText,
      unit.header first = .ok firstText ∧ unit.header second = .ok secondText ∧
      (first.indentWidth = second.indentWidth → ∃ rest,
        firstText =
          linesText (preambleLines first.runtimeHeader first.runtimeNamespace) ++ rest ∧
        secondText =
          linesText (preambleLines second.runtimeHeader second.runtimeNamespace) ++ rest) ∧
      (first.runtimeHeader = second.runtimeHeader →
        first.runtimeNamespace = second.runtimeNamespace →
          unindented firstText = unindented secondText) := by
  cases outcome : unit.header first with
  | error error => exact .inl ⟨error, rfl, header_eq_error_of_options outcome second⟩
  | ok text =>
      rcases exists_lines outcome with ⟨lines, headers⟩
      refine .inr ⟨_, _, outcome.symm.trans (headers first), headers second, ?_, ?_⟩
      · intro width
        have unit : first.indentUnit = second.indentUnit := by
          rw [Options.indentUnit, Options.indentUnit, width]
        exact ⟨Sections.blockText first.indentUnit 0 lines, rfl, by rw [unit]⟩
      · intro header segments
        rw [header, segments,
          unindented_linesText_append fun _ member => first.eq_space_of_mem_indentUnit member,
          unindented_linesText_append fun _ member => second.eq_space_of_mem_indentUnit member]

/-- A class in two namespaces with a type that goes over two lines. -/
def brokenTypeUnit : ClassUnit where
  classes :=
    [{ name := "A", path := ⟨["x", "y"]⟩, fields := [⟨"unsigned\n  int", "size"⟩] }]

/-- Two widths give different texts, which agree once they are unindented. -/
theorem brokenTypeUnit_agrees :
    ∃ narrow wide,
      brokenTypeUnit.header { indentWidth := 1 } = .ok narrow ∧
      brokenTypeUnit.header { indentWidth := 8 } = .ok wide ∧
      narrow ≠ wide ∧ unindented narrow = unindented wide := by
  have differ : brokenTypeUnit.header { indentWidth := 1 } ≠
      brokenTypeUnit.header { indentWidth := 8 } := by
    decide +kernel
  rcases brokenTypeUnit.headers_agree_of_options { indentWidth := 1 } { indentWidth := 8 } with
    ⟨error, refused, alsoRefused⟩ | ⟨narrow, wide, first, second, _, agree⟩
  · exact absurd (refused.trans alsoRefused.symm) differ
  · refine ⟨narrow, wide, first, second, ?_, agree rfl rfl⟩
    rintro rfl
    exact differ (first.trans second.symm)

end VtableHeader
