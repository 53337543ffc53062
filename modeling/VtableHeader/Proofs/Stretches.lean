import Mathlib.Data.List.Defs
import VtableHeader.Sections

/-!
# Stretches between flushes

Text is written to three sections in any order, and a flush fixes what waits in all of them.  So the
rendered text is cut into stretches, one for each part between two flushes, and each stretch is the
text of its head, its class declarations and its vtables in this order.

What a section contributes to the stretches is defined from the edits that concern it alone: those
that are addressed to it, and the flushes.  That this is what the sections hold, whatever edits of
other sections come in between, is the independence of sections.  One edit takes a section from one
point of its history to the next; the whole run follows by induction on its edits.
-/

namespace VtableHeader

/-- A change of the text under construction. -/
inductive Edit where
  | write (place : Section) (text : String) (indented : Bool) (breaks : Nat)
  | line (place : Section) (text : String)
  | blank (place : Section)
  | indent (place : Section)
  | dedent (place : Section)
  | flush
  deriving DecidableEq, Repr

namespace Edit

/-- The sections after an edit. -/
def apply (sections : Sections) : Edit → Sections
  | .write place text indented breaks => sections.write place text indented breaks
  | .line place text => sections.line place text
  | .blank place => sections.blank place
  | .indent place => sections.indent place
  | .dedent place => sections.dedent place
  | .flush => sections.flush

/-- The section that an edit is addressed to; a flush is addressed to none. -/
def place? : Edit → Option Section
  | .write place _ _ _ | .line place _ | .blank place | .indent place | .dedent place => some place
  | .flush => none

/-- Whether an edit concerns a section: it is addressed to it, or is a flush. -/
def concerns (place : Section) (edit : Edit) : Bool :=
  edit.place? = some place ∨ edit = .flush

/-- What an edit writes to its section at `depth`. -/
def text (indentUnit : String) (depth : Nat) : Edit → String
  | .write _ text indented breaks =>
      (if indented then Sections.indentation indentUnit depth text else "") ++ text ++
        Sections.lineBreaks breaks
  | .line _ text => Sections.indentation indentUnit depth text ++ text ++ "\n"
  | .blank _ => "\n"
  | .indent _ | .dedent _ | .flush => ""

/-- The depth of its section after an edit. -/
def shift (depth : Nat) : Edit → Nat
  | .indent _ => depth + 1
  | .dedent _ => depth - 1
  | .write _ _ _ _ | .line _ _ | .blank _ | .flush => depth

end Edit

namespace Sections

variable {sections : Sections} {place : Section} {edit : Edit}

/-- The sections after edits. -/
def edited (sections : Sections) (edits : List Edit) : Sections :=
  edits.foldl Edit.apply sections

/-! ## One section on its own -/

/-- The text of one stretch of a section that the stretch finds at `depth`. -/
def stretchText (indentUnit : String) : Nat → List Edit → String
  | _, [] => ""
  | depth, edit :: rest =>
      edit.text indentUnit depth ++ stretchText indentUnit (edit.shift depth) rest

/-- The texts of the stretches of a section, each of which finds the depth that the one before it
has left. -/
def stretchTexts (indentUnit : String) : Nat → List (List Edit) → List String
  | _, [] => []
  | depth, stretch :: rest =>
      stretchText indentUnit depth stretch ::
        stretchTexts indentUnit (stretch.foldl Edit.shift depth) rest

/-- What the edits of a section make of it between flushes, from `depth` on. -/
def ownTexts (indentUnit : String) (depth : Nat) (edits : List Edit) : List String :=
  stretchTexts indentUnit depth (edits.splitOn .flush)

/-- What a section contributes to each stretch of a new text, said by the edits that concern it. -/
def contributions (indentUnit : String) (place : Section) (edits : List Edit) : List String :=
  ownTexts indentUnit 0 (edits.filter (·.concerns place))

/-- The depth of a section of a new text after edits, said by the edits that concern it. -/
def depthAfter (place : Section) (edits : List Edit) : Nat :=
  (edits.filter (·.concerns place)).foldl Edit.shift 0

theorem ownTexts_flush (indentUnit : String) (depth : Nat) (rest : List Edit) :
    ownTexts indentUnit depth (.flush :: rest) = "" :: ownTexts indentUnit depth rest := by
  rw [ownTexts, List.splitOn_cons_eq_if_modifyHead, if_pos (beq_self_eq_true _)]
  rfl

/-- An edit adds its text to the stretch that it begins. -/
theorem ownTexts_cons (indentUnit : String) (depth : Nat) (notFlush : edit ≠ .flush)
    (rest : List Edit) :
    ownTexts indentUnit depth (edit :: rest) =
      (ownTexts indentUnit (edit.shift depth) rest).modifyHead
        (edit.text indentUnit depth ++ ·) := by
  rw [ownTexts, ownTexts, List.splitOn_cons_eq_if_modifyHead, if_neg (by simpa using notFlush)]
  cases rest.splitOn .flush with
  | nil => rfl
  | cons stretch others => rfl

theorem place?_eq_none_iff : edit.place? = none ↔ edit = .flush := by
  cases edit <;> simp [Edit.place?]

@[simp]
theorem indentUnit_apply (sections : Sections) (edit : Edit) :
    (edit.apply sections).indentUnit = sections.indentUnit := by
  cases edit with
  | flush => rfl
  | _ => exact indentUnit_update _ _ _

/-- An edit writes to its own section and moves its depth, and changes nothing else. -/
theorem apply_eq_update (sections : Sections) (addressed : edit.place? = some place) :
    edit.apply sections = sections.update place fun pending =>
      ⟨pending.text ++ edit.text sections.indentUnit pending.depth, edit.shift pending.depth⟩ := by
  cases edit with
  | flush => simp [Edit.place?] at addressed
  | indent other =>
      obtain rfl : other = place := Option.some.inj addressed
      simp [Edit.apply, Sections.indent, Edit.text, Edit.shift]
  | dedent other =>
      obtain rfl : other = place := Option.some.inj addressed
      simp [Edit.apply, Sections.dedent, Edit.text, Edit.shift]
  | _ =>
      obtain rfl := Option.some.inj addressed
      rfl

theorem flushed_apply (addressed : edit.place? = some place) :
    (edit.apply sections).flushed = sections.flushed := by
  rw [apply_eq_update sections addressed, flushed_update]

theorem pending_apply (addressed : edit.place? = some place) :
    (edit.apply sections).pending place =
      ⟨(sections.pending place).text ++
          edit.text sections.indentUnit (sections.pending place).depth,
        edit.shift (sections.pending place).depth⟩ := by
  rw [apply_eq_update sections addressed, pending_update]

theorem pending_apply_of_ne {other : Section} (addressed : edit.place? = some other)
    (distinct : place ≠ other) : (edit.apply sections).pending place = sections.pending place := by
  rw [apply_eq_update sections addressed, pending_update_of_ne _ _ distinct]

/-- What a section contributes to the stretches of a text that is continued from `sections`: its
waiting text belongs to the first of them. -/
def history (sections : Sections) (place : Section) (edits : List Edit) : List String :=
  (ownTexts sections.indentUnit (sections.pending place).depth
    (edits.filter (·.concerns place))).modifyHead ((sections.pending place).text ++ ·)

theorem modifyHead_empty_append (texts : List String) : texts.modifyHead ("" ++ ·) = texts := by
  cases texts <;> simp

theorem history_nil (sections : Sections) (place : Section) :
    sections.history place [] = [(sections.pending place).text] := by
  simp [history, ownTexts, stretchTexts, stretchText]

/-- A flush ends a stretch in every section. -/
theorem history_flush (sections : Sections) (place : Section) (rest : List Edit) :
    sections.history place (.flush :: rest) =
      (sections.pending place).text :: sections.flush.history place rest := by
  have kept : (Edit.flush :: rest).filter (·.concerns place) =
      .flush :: rest.filter (·.concerns place) := by
    simp [Edit.concerns]
  have emptied : (sections.flush.pending place).text = "" := by cases place <;> rfl
  rw [history, kept, ownTexts_flush, List.modifyHead_cons, String.append_empty, history, emptied,
    depth_flush, modifyHead_empty_append]
  rfl

/-- Any other edit is the next point of the same history, whichever section it is addressed to. -/
theorem history_cons (place : Section) (notFlush : edit ≠ .flush) (rest : List Edit) :
    sections.history place (edit :: rest) = (edit.apply sections).history place rest := by
  obtain ⟨other, addressed⟩ := Option.ne_none_iff_exists'.mp fun none =>
    notFlush (place?_eq_none_iff.mp none)
  by_cases same : place = other
  · subst same
    have kept : (edit :: rest).filter (·.concerns place) =
        edit :: rest.filter (·.concerns place) := by
      simp [Edit.concerns, addressed]
    rw [history, kept, ownTexts_cons _ _ notFlush, List.modifyHead_modifyHead, history,
      pending_apply addressed, indentUnit_apply]
    simp [Function.comp_def, String.append_assoc]
  · have dropped : (edit :: rest).filter (·.concerns place) = rest.filter (·.concerns place) := by
      simp [Edit.concerns, addressed, notFlush, Ne.symm same]
    rw [history, dropped, history, pending_apply_of_ne addressed same, indentUnit_apply]

theorem edited_cons (sections : Sections) (edit : Edit) (rest : List Edit) :
    sections.edited (edit :: rest) = (edit.apply sections).edited rest :=
  rfl

/-- The stretches of three sections, one after another. -/
def interleaved (head classDecls vtables : List String) : String :=
  String.join (List.zipWith3 (fun head classDecls vtables => head ++ classDecls ++ vtables)
    head classDecls vtables)

theorem interleaved_cons (head classDecls vtables : String) (heads decls tables : List String) :
    interleaved (head :: heads) (classDecls :: decls) (vtables :: tables) =
      head ++ classDecls ++ vtables ++ interleaved heads decls tables := by
  simp [interleaved, List.zipWith3]

/-- A run renders what was flushed before it and the stretches of its three histories. -/
theorem render_edited (sections : Sections) (edits : List Edit) :
    (sections.edited edits).render =
      sections.flushed ++ interleaved (sections.history .head edits)
        (sections.history .classDecls edits) (sections.history .vtables edits) := by
  induction edits generalizing sections with
  | nil =>
      simp only [history_nil, interleaved_cons]
      exact congrArg (sections.flushed ++ ·) String.append_empty.symm
  | cons edit rest ih =>
      rw [edited_cons, ih]
      by_cases flushes : edit = .flush
      · subst flushes
        simp only [history_flush, interleaved_cons]
        exact String.append_assoc
      · obtain ⟨place, addressed⟩ := Option.ne_none_iff_exists'.mp fun none =>
          flushes (place?_eq_none_iff.mp none)
        simp only [history_cons _ flushes, flushed_apply addressed]

/-- The last stretch of a history is still waiting after the run. -/
theorem getLast?_history (sections : Sections) (place : Section) (edits : List Edit) :
    (sections.history place edits).getLast? =
      some ((sections.edited edits).pending place).text := by
  induction edits generalizing sections with
  | nil => rw [history_nil]; rfl
  | cons edit rest ih =>
      rw [edited_cons, ← ih]
      by_cases flushes : edit = .flush
      · subst flushes
        have more : sections.flush.history place rest ≠ [] := by
          intro empty
          simpa [empty] using ih sections.flush
        rw [history_flush, List.getLast?_cons_of_ne_nil more]
        rfl
      · rw [history_cons place flushes]

/-- The depth of a section moves with the edits that concern it. -/
theorem depth_edited (sections : Sections) (place : Section) (edits : List Edit) :
    ((sections.edited edits).pending place).depth =
      (edits.filter (·.concerns place)).foldl Edit.shift (sections.pending place).depth := by
  induction edits generalizing sections with
  | nil => rfl
  | cons edit rest ih =>
      rw [edited_cons, ih]
      by_cases flushes : edit = .flush
      · subst flushes
        simp [Edit.apply, Edit.concerns, Edit.shift]
      · obtain ⟨other, addressed⟩ := Option.ne_none_iff_exists'.mp fun none =>
          flushes (place?_eq_none_iff.mp none)
        by_cases same : place = other
        · subst same
          rw [pending_apply addressed]
          simp [Edit.concerns, addressed]
        · rw [pending_apply_of_ne addressed same]
          simp [Edit.concerns, addressed, flushes, Ne.symm same]

theorem length_history (sections : Sections) (place : Section) (edits : List Edit) :
    (sections.history place edits).length = edits.count .flush + 1 := by
  induction edits generalizing sections with
  | nil => rw [history_nil]; rfl
  | cons edit rest ih =>
      by_cases flushes : edit = .flush
      · subst flushes
        simp [history_flush, ih]
      · simp [history_cons place flushes, ih, flushes]

/-- From a new text on, a history is what the section contributes. -/
theorem history_new (indentUnit : String) (place : Section) (edits : List Edit) :
    ({ indentUnit } : Sections).history place edits = contributions indentUnit place edits := by
  have fresh : ({ indentUnit } : Sections).pending place = {} := by cases place <;> rfl
  rw [history, fresh]
  exact modifyHead_empty_append _

/-- The depth of a section of a new text. -/
theorem depth_edited_new (indentUnit : String) (place : Section) (edits : List Edit) :
    ((({ indentUnit } : Sections).edited edits).pending place).depth = depthAfter place edits := by
  have fresh : ({ indentUnit } : Sections).pending place = {} := by cases place <;> rfl
  rw [depth_edited, fresh]
  rfl

/-- A section of a new text after edits is made of what concerns it. -/
theorem pending_edited_congr (indentUnit : String) {first second : List Edit}
    (same : first.filter (·.concerns place) = second.filter (·.concerns place)) :
    (({ indentUnit } : Sections).edited first).pending place =
      (({ indentUnit } : Sections).edited second).pending place := by
  have depths : depthAfter place first = depthAfter place second := by
    rw [depthAfter, depthAfter, same]
  have texts : contributions indentUnit place first = contributions indentUnit place second := by
    rw [contributions, contributions, same]
  rw [← depth_edited_new indentUnit, ← depth_edited_new indentUnit] at depths
  rw [← history_new, ← history_new] at texts
  have waiting := congrArg List.getLast? texts
  rw [getLast?_history, getLast?_history] at waiting
  exact congrArg₂ Pending.mk (Option.some.inj waiting) depths

/-- Sections are independent.  Whatever edits a new text goes through, what is rendered is one
stretch after another, each with the contributions of the head, the class declarations and the
vtables; the last contribution of a section is what waits in it.  Its contributions and its depth
are determined by the edits that concern it.  A flush changes neither the rendered text nor a depth,
and the finished text is the rendered one. -/
theorem rendered_by_stretches (indentUnit : String) (edits : List Edit) :
    let start : Sections := { indentUnit }
    let final := start.edited edits
    final.render = interleaved (contributions indentUnit .head edits)
      (contributions indentUnit .classDecls edits) (contributions indentUnit .vtables edits) ∧
    (∀ place, (contributions indentUnit place edits).length = edits.count .flush + 1 ∧
      (contributions indentUnit place edits).getLast? = some (final.pending place).text ∧
      (final.pending place).depth = depthAfter place edits) ∧
    (∀ place others, edits.filter (·.concerns place) = others.filter (·.concerns place) →
      contributions indentUnit place others = contributions indentUnit place edits ∧
      (start.edited others).pending place = final.pending place) ∧
    final.flush.render = final.render ∧
    (∀ place, (final.flush.pending place).depth = (final.pending place).depth) ∧
    final.finish = final.render := by
  dsimp only
  refine ⟨?_, ?_, ?_, render_flush _, depth_flush _, rfl⟩
  · rw [render_edited, history_new, history_new, history_new]
    exact String.empty_append
  · intro place
    rw [← history_new]
    exact ⟨length_history _ _ _, getLast?_history _ _ _, depth_edited_new _ _ _⟩
  · intro place others same
    constructor
    · rw [contributions, contributions, same]
    · exact (pending_edited_congr indentUnit same).symm

end Sections

/-- Edits that go back and forth between the sections, with a flush among them. -/
def scatteredEdits : List Edit :=
  [.indent .head, .line .vtables "vt", .line .head "namespace b", .flush, .dedent .head,
    .indent .classDecls, .dedent .head, .line .classDecls "int x;", .line .head "end"]

/-- The edits of the head alone leave the same head, and the text is sorted within each of its two
stretches. -/
theorem scatteredEdits_rendered :
    (({ indentUnit := "  " } : Sections).edited scatteredEdits).render =
        "  namespace b\nvt\nend\n  int x;\n" ∧
      (({ indentUnit := "  " } : Sections).edited (scatteredEdits.filter (·.concerns .head))).head =
        (({ indentUnit := "  " } : Sections).edited scatteredEdits).head := by
  obtain ⟨rendered, -, independent, -⟩ := Sections.rendered_by_stretches "  " scatteredEdits
  constructor
  · rw [rendered]
    decide +kernel
  · exact (independent .head _ (by decide)).2

end VtableHeader
