import VtableHeader.Proofs.Effects
import VtableHeader.Proofs.Pieces

/-!
# Journals of a draft

A generator changes the text of its draft in five ways only: it opens a namespace, closes one,
leaves an empty line in the head, writes a block of a class, or flushes.  An `Entry` is one
such change, and a journal lists them in the order in which they were made.  `Draft.Records`
says that a journal accounts for a draft: the sections are what its entries wrote, and the open
namespaces are what remains of those that it opens and closes.

Every action of a generator has a journal.  This holds of failing actions too, which keep what
they had written before they failed.
-/

namespace VtableHeader

/-- The section that a block is written to. -/
def Block.place : Block → Section
  | .forward _ | .body _ => .classDecls
  | .vtable _ _ => .vtables

/-- A change of the text of a draft. -/
inductive Entry where
  | opening (segment : String)
  | closing
  | blank
  | block (content : Block)
  | flush
  deriving DecidableEq, Repr

namespace Entry

/-- The sections after a change.  Namespace lines and empty lines go to the head. -/
def write (sections : Sections) : Entry → Sections
  | .opening segment => (sections.line .head ("namespace " ++ segment ++ " \x7b")).indent .head
  | .closing => (sections.dedent .head).line .head "\x7d"
  | .blank => sections.blank .head
  | .block content => sections.block content.place content.lines
  | .flush => sections.flush

/-- The open namespaces after a change.  Nothing can be closed when none is open. -/
def replay (scope : List String) : Entry → Option (List String)
  | .opening segment => some (scope ++ [segment])
  | .closing => if scope.isEmpty then none else some scope.dropLast
  | .blank | .block _ | .flush => some scope

/-- Whether a change is a line of the head. -/
def isLine : Entry → Bool
  | .opening _ | .closing | .blank => true
  | .block _ | .flush => false

section Lines

variable (sections : Sections)

/-- An opening adds its line to the head, which then goes one level deeper. -/
theorem write_opening (segment : String) :
    (opening segment).write sections = { sections with
      head := ⟨sections.head.text ++
          (Piece.opening sections.head.depth segment).text sections.indentUnit,
        sections.head.depth + 1⟩ } := by
  rw [Piece.text_opening_eq_lineText]
  rfl

/-- A closing takes the head one level back and adds its line there. -/
theorem write_closing :
    closing.write sections = { sections with
      head := ⟨sections.head.text ++
          (Piece.closing (sections.head.depth - 1)).text sections.indentUnit,
        sections.head.depth - 1⟩ } := by
  rw [Piece.text_closing_eq_lineText]
  rfl

theorem write_blank :
    blank.write sections = { sections with
      head := ⟨sections.head.text ++ Piece.blank.text sections.indentUnit,
        sections.head.depth⟩ } :=
  rfl

/-- A block comes behind what waits in its section, which does not indent it. -/
theorem write_block (content : Block) (outermost : (sections.pending content.place).depth = 0) :
    (block content).write sections = sections.update content.place fun pending =>
      { pending with text := pending.text ++ (Piece.block content).text sections.indentUnit } := by
  simp only [write, Piece.text, Sections.block]
  generalize content.place = place at outermost ⊢
  cases place <;> simp_all [Sections.update, Sections.pending]

end Lines

end Entry

/-- The sections after the changes of a journal. -/
def Sections.recorded (sections : Sections) (journal : List Entry) : Sections :=
  journal.foldl Entry.write sections

/-- The open namespaces after the changes of a journal. -/
def openAfter (scope : List String) (journal : List Entry) : Option (List String) :=
  journal.foldlM Entry.replay scope

/-- A journal accounts for the way from one draft to another. -/
structure Draft.Records (draft : Draft) (journal : List Entry) (next : Draft) : Prop where
  written : next.sections = draft.sections.recorded journal
  replayed : openAfter draft.scope journal = some next.scope

/-- Only lines of the head are written on the way from one draft to another. -/
def Draft.Moves (draft next : Draft) : Prop :=
  ∃ journal, draft.Records journal next ∧ ∀ entry ∈ journal, entry.isLine = true

section Journals

variable (sections : Sections) {scope middle final : List String} {first second : List Entry}

theorem Sections.recorded_append (first second : List Entry) :
    sections.recorded (first ++ second) = (sections.recorded first).recorded second :=
  List.foldl_append

theorem openAfter_append (begins : openAfter scope first = some middle) :
    openAfter scope (first ++ second) = openAfter middle second := by
  unfold openAfter at begins ⊢
  rw [List.foldlM_append, begins]
  rfl

theorem openAfter_singleton (scope : List String) (entry : Entry) :
    openAfter scope [entry] = entry.replay scope := by
  simp [openAfter]

theorem openAfter_cons_iff {entry : Entry} {rest : List Entry} :
    openAfter scope (entry :: rest) = some final ↔
      ∃ middle, entry.replay scope = some middle ∧ openAfter middle rest = some final := by
  unfold openAfter
  rw [List.foldlM_cons]
  exact Option.bind_eq_some_iff

theorem openAfter_blocks (scope : List String) (blocks : List Block) :
    openAfter scope (blocks.map .block) = some scope := by
  induction blocks with
  | nil => rfl
  | cons block rest ih => exact openAfter_cons_iff.mpr ⟨scope, rfl, ih⟩

theorem Sections.recorded_closings (count : Nat) :
    sections.recorded (List.replicate count .closing) = sections.closeNamespaces count := by
  induction count generalizing sections with
  | zero => rfl
  | succ count ih => exact ih ((sections.dedent .head).line .head closingLine)

theorem Sections.recorded_openings (segments : List String) :
    sections.recorded (segments.map .opening) = sections.openNamespaces segments := by
  induction segments generalizing sections with
  | nil => rfl
  | cons segment rest ih =>
      exact ih ((sections.line .head (openingLine segment)).indent .head)

/-- A piece of a header as a change of the text. -/
def Piece.entry : Piece → Entry
  | .opening _ segment => .opening segment
  | .closing _ => .closing
  | .blank => .blank
  | .block content => .block content

/-- Where a piece can be replayed, its entry can too. -/
theorem Piece.replay_entry {piece : Piece} (replayed : piece.replay scope = some middle) :
    piece.entry.replay scope = some middle := by
  cases piece with
  | opening depth segment =>
      by_cases fits : depth = scope.length
      · simpa [Piece.replay, fits, Piece.entry, Entry.replay] using replayed
      · simp [Piece.replay, fits] at replayed
  | closing depth =>
      by_cases fits : depth + 1 = scope.length
      · have nonempty : scope.isEmpty = false := by
          cases scope with
          | nil => simp at fits
          | cons => rfl
        simpa [Piece.replay, fits, Piece.entry, Entry.replay, nonempty] using replayed
      · simp [Piece.replay, fits] at replayed
  | blank => exact replayed
  | block content =>
      by_cases inside : content.decl.path.segments = scope
      · simpa [Piece.replay, inside, Piece.entry, Entry.replay] using replayed
      · simp [Piece.replay, inside] at replayed

theorem openAfter_of_replayAll {pieces : List Piece}
    (replayed : replayAll scope pieces = some middle) :
    openAfter scope (pieces.map Piece.entry) = some middle := by
  induction pieces generalizing scope with
  | nil => exact replayed
  | cons piece rest ih =>
      rcases Option.bind_eq_some_iff.mp replayed with ⟨between, stepped, later⟩
      have first : openAfter scope [piece.entry] = some between := by
        simp [openAfter, Piece.replay_entry stepped]
      rw [List.map_cons, ← List.singleton_append, openAfter_append first]
      exact ih later

theorem map_entry_closings (depth count : Nat) :
    (closings depth count).map Piece.entry = List.replicate count .closing := by
  induction count generalizing depth with
  | zero => rfl
  | succ count ih => exact congrArg (Entry.closing :: ·) (ih (depth - 1))

theorem map_entry_openings (depth : Nat) (segments : List String) :
    (openings depth segments).map Piece.entry = segments.map .opening := by
  induction segments generalizing depth with
  | nil => rfl
  | cons segment rest ih => exact congrArg (Entry.opening segment :: ·) (ih (depth + 1))

theorem openAfter_closings (scope : List String) {count : Nat} (enough : count ≤ scope.length) :
    openAfter scope (List.replicate count .closing) =
      some (scope.take (scope.length - count)) := by
  rw [← map_entry_closings scope.length]
  exact openAfter_of_replayAll (replayAll_closings scope enough)

theorem openAfter_openings (scope segments : List String) :
    openAfter scope (segments.map .opening) = some (scope ++ segments) := by
  rw [← map_entry_openings scope.length]
  exact openAfter_of_replayAll (replayAll_openings scope segments)

end Journals

namespace Draft

variable {draft middle next : Draft} {first second : List Entry}

theorem Records.nil (draft : Draft) : draft.Records [] draft :=
  ⟨rfl, rfl⟩

theorem Records.append (begins : draft.Records first middle)
    (continues : middle.Records second next) : draft.Records (first ++ second) next where
  written := by rw [Sections.recorded_append, ← begins.written, continues.written]
  replayed := by rw [openAfter_append begins.replayed, continues.replayed]

/-- A journal can be read one entry at a time. -/
theorem records_cons_iff {entry : Entry} :
    draft.Records (entry :: second) next ↔
      ∃ middle, draft.Records [entry] middle ∧ middle.Records second next := by
  constructor
  · rintro ⟨written, replayed⟩
    rcases Option.bind_eq_some_iff.mp replayed with ⟨scope, stepped, rest⟩
    have single : openAfter draft.scope [entry] = some scope := by
      simp [openAfter, stepped]
    exact ⟨⟨entry.write draft.sections, scope⟩, ⟨rfl, single⟩, ⟨written, rest⟩⟩
  · rintro ⟨middle, begins, continues⟩
    exact begins.append continues

theorem records_flush (draft : Draft) : draft.Records [.flush] draft.flush :=
  ⟨rfl, rfl⟩

theorem records_blank (draft : Draft) :
    draft.Records [.blank] (draft.onSections (·.blank .head)) :=
  ⟨rfl, rfl⟩

theorem records_block (draft : Draft) (content : Block) :
    draft.Records [.block content] (draft.onSections (·.block content.place content.lines)) :=
  ⟨rfl, rfl⟩

theorem records_closeTo (draft : Draft) (depth : Nat) :
    draft.Records (List.replicate (draft.scope.length - depth) .closing)
      (draft.closeTo depth).1 where
  written := (Sections.recorded_closings _ _).symm
  replayed := by
    rw [openAfter_closings _ (Nat.sub_le _ _), scope_closeTo]
    by_cases inside : depth ≤ draft.scope.length
    · rw [Nat.sub_sub_self inside]
    · rw [Nat.sub_eq_zero_of_le (Nat.le_of_not_le inside), Nat.sub_zero,
        List.take_of_length_le (Nat.le_refl _),
        List.take_of_length_le (Nat.le_of_not_le inside)]

theorem records_openings (draft : Draft) (segments : List String) :
    draft.Records (segments.map .opening)
      ⟨draft.sections.openNamespaces segments, draft.scope ++ segments⟩ :=
  ⟨(Sections.recorded_openings _ _).symm, openAfter_openings _ _⟩

theorem moves_refl (draft : Draft) : draft.Moves draft :=
  ⟨[], .nil draft, by simp⟩

theorem Moves.trans (begins : draft.Moves middle) (continues : middle.Moves next) :
    draft.Moves next := by
  obtain ⟨first, recordsFirst, linesFirst⟩ := begins
  obtain ⟨second, recordsSecond, linesSecond⟩ := continues
  exact ⟨first ++ second, recordsFirst.append recordsSecond,
    List.forall_mem_append.mpr ⟨linesFirst, linesSecond⟩⟩

theorem moves_closeTo (draft : Draft) (depth : Nat) : draft.Moves (draft.closeTo depth).1 := by
  have lines : ∀ entry ∈ List.replicate (draft.scope.length - depth) Entry.closing,
      entry.isLine = true := by
    intro entry closing
    rw [List.eq_of_mem_replicate closing]
    rfl
  exact ⟨_, draft.records_closeTo depth, lines⟩

theorem moves_openings (draft : Draft) (segments : List String) :
    draft.Moves ⟨draft.sections.openNamespaces segments, draft.scope ++ segments⟩ := by
  have lines : ∀ entry ∈ segments.map Entry.opening, entry.isLine = true := by
    intro entry opening
    obtain ⟨segment, _, rfl⟩ := List.mem_map.mp opening
    rfl
  exact ⟨_, draft.records_openings segments, lines⟩

theorem moves_spaced (draft : Draft) (wanted : Prop) [Decidable wanted] :
    draft.Moves (if wanted then draft.onSections (·.blank .head) else draft) := by
  by_cases spaced : wanted
  · rw [if_pos spaced]
    exact ⟨[.blank], draft.records_blank, by simp [Entry.isLine]⟩
  · rw [if_neg spaced]
    exact draft.moves_refl

/-- Switching to other namespaces closes some and opens others. -/
theorem moves_switchTo (draft : Draft) (segments : List String) :
    draft.Moves (draft.switchTo segments).1 := by
  let common := commonDepth draft.scope segments
  let closed := (draft.closeTo common).1
  let wanted := 0 < (draft.closeTo common).2 ∧ common < segments.length
  let spaced := if wanted then closed.onSections (·.blank .head) else closed
  have whole : (draft.switchTo segments).1 =
      ⟨spaced.sections.openNamespaces (segments.drop common),
        spaced.scope ++ segments.drop common⟩ := by
    by_cases apart : wanted <;> simp [switchTo, spaced, wanted, closed, common, apart, onSections]
  rw [whole]
  exact (draft.moves_closeTo common).trans
    ((closed.moves_spaced wanted).trans (spaced.moves_openings (segments.drop common)))

theorem moves_movedTo (draft : Draft) (segments : List String) :
    draft.Moves (draft.movedTo segments) :=
  (draft.moves_switchTo segments).trans
    ((draft.switchTo segments).1.moves_spaced (0 < (draft.switchTo segments).2))

theorem moves_openNamespace {path : NamespacePath} {opened : Draft × Nat}
    (succeeds : draft.openNamespace path = .ok opened) : draft.Moves opened.1 := by
  rcases openNamespace_eq_ok_iff.mp succeeds with ⟨_, rfl⟩
  by_cases global : path.isRoot = true
  · rw [if_pos global]
    exact draft.moves_refl
  · rw [if_neg global]
    exact draft.moves_switchTo path.segments

theorem Moves.exists_records (moves : draft.Moves next) :
    ∃ journal, draft.Records journal next := by
  obtain ⟨journal, records, _⟩ := moves
  exact ⟨journal, records⟩

theorem exists_records_writeVtable {decl : Class} {inherited : List Slot}
    {result : Draft × List Slot} (succeeds : draft.writeVtable decl inherited = .ok result) :
    ∃ journal, draft.Records journal result.1 := by
  rcases bind_eq_ok_iff.mp succeeds with ⟨slots, _, answer⟩
  obtain rfl := Except.ok.inj answer
  exact ⟨_, draft.records_block (.vtable decl slots)⟩

end Draft

namespace Generator

/-! ## Actions -/

/-- Some journal accounts for the way from one generator to another. -/
def Recorded (generator next : Generator) : Prop :=
  ∃ journal, generator.draft.Records journal next.draft

theorem Recorded.trans (first second third : Generator) (begins : Recorded first second)
    (continues : Recorded second third) : Recorded first third := by
  obtain ⟨journal, records⟩ := begins
  obtain ⟨rest, continued⟩ := continues
  exact ⟨journal ++ rest, records.append continued⟩

/-- What an action does to the draft has a journal, whether the action succeeds or fails. -/
def Journaled {α : Type} (action : Action α) : Prop :=
  ∀ generator : Generator,
    ∃ journal, generator.draft.Records journal (generator.perform action).2.draft

section Sequences

variable {α β : Type}

theorem journaled_require (result : Except GenError α) : Journaled (require result) :=
  fun generator => ⟨[], .nil generator.draft⟩

theorem journaled_pure (answer : α) : Journaled (pure answer) :=
  fun generator => ⟨[], .nil generator.draft⟩

theorem journaled_current : Journaled current :=
  fun generator => ⟨[], .nil generator.draft⟩

theorem journaled_onTable (change : ClassTable → ClassTable) : Journaled (onTable change) :=
  fun generator => ⟨[], .nil generator.draft⟩

theorem journaled_onDraft {change : Draft → Draft}
    (records : ∀ draft : Draft, ∃ journal, draft.Records journal (change draft)) :
    Journaled (onDraft change) :=
  fun generator => records generator.draft

/-- The journal of a sequence is that of its first part, followed by that of the second part if
it is reached. -/
theorem Journaled.bind {first : Action α} {second : α → Action β} (begins : Journaled first)
    (continues : ∀ answer, Journaled (second answer)) : Journaled (first >>= second) :=
  Leads.bind Recorded.trans begins continues

theorem Journaled.map {action : Action α} (journaled : Journaled action) (change : α → β) :
    Journaled (change <$> action) := by
  intro generator
  rw [perform_map]
  exact journaled generator

theorem journaled_forM {items : List α} {action : α → Action Unit}
    (each : ∀ item, Journaled (action item)) : Journaled (items.forM action) :=
  leads_forM Recorded.trans (journaled_pure ()) fun item _ => each item

/-- A computation that reads the generator needs a journal for what follows only when it
succeeds. -/
theorem journaled_compute {compute : Generator → Except GenError α} {rest : α → Action β}
    (records : ∀ (generator : Generator) (result : α), compute generator = .ok result →
      ∃ journal, generator.draft.Records journal (generator.perform (rest result)).2.draft) :
    Journaled (current >>= fun generator => require (compute generator) >>= rest) := by
  intro generator
  rw [perform_current_bind, perform_bind, perform_require]
  cases computed : compute generator with
  | error error => exact ⟨[], .nil generator.draft⟩
  | ok result => exact records generator result computed

end Sequences

theorem journaled_openNamespace (path : NamespacePath) : Journaled (openNamespace path) := by
  apply journaled_compute
  intro generator opened succeeds
  exact (Draft.moves_openNamespace succeeds).exists_records

theorem journaled_closeAll : Journaled closeAll :=
  journaled_onDraft fun draft => ⟨_, draft.records_closeTo 0⟩

theorem journaled_requireNew (decl : Class) : Journaled (requireNew decl) :=
  journaled_current.bind fun _ => journaled_require _

theorem journaled_requireDeclared (decl : Class) : Journaled (requireDeclared decl) :=
  journaled_current.bind fun _ => journaled_require _

theorem journaled_declareForward (decl : Class) : Journaled (declareForward decl) := by
  apply (journaled_require decl.check).bind
  intro _
  apply (journaled_requireNew decl).bind
  intro _
  apply (journaled_onDraft fun draft => ⟨_, draft.records_block (.forward decl)⟩).bind
  intro _
  exact journaled_onTable _

theorem journaled_declareBody (decl : Class) : Journaled (declareBody decl) := by
  apply (journaled_requireDeclared decl).bind
  intro _
  exact journaled_onDraft fun draft => ⟨_, draft.records_block (.body decl)⟩

theorem journaled_storeSlots (decl : Class) (slots : List Slot) :
    Journaled (storeSlots decl slots) :=
  (journaled_requireDeclared decl).bind fun _ => journaled_onTable _

theorem journaled_declareVtable (decl : Class) : Journaled (declareVtable decl) := by
  apply (journaled_requireDeclared decl).bind
  intro _
  apply journaled_current.bind
  intro _
  apply (journaled_require _).bind
  intro inherited
  apply journaled_compute
  rintro generator ⟨draft, slots⟩ succeeds
  obtain ⟨journal, records⟩ := Draft.exists_records_writeVtable succeeds
  have stores : Journaled (storeSlots decl slots >>= fun _ => pure slots) :=
    (journaled_storeSlots decl slots).bind fun _ => journaled_pure slots
  obtain ⟨rest, stored⟩ := stores { generator with draft := draft }
  simp only [perform_onDraft_bind]
  exact ⟨journal ++ rest, records.append stored⟩

theorem journaled_link (decl : Class) : Journaled (link decl) := by
  apply journaled_current.bind
  intro _
  apply (journaled_require _).bind
  intro inherited
  apply (journaled_require _).bind
  intro slots
  exact journaled_storeSlots decl slots

theorem journaled_enterNamespace (path : NamespacePath) : Journaled (enterNamespace path) := by
  apply journaled_compute
  intro generator entered succeeds
  obtain ⟨_, rfl⟩ := Draft.enterNamespace_eq_ok_iff.mp succeeds
  exact (generator.draft.moves_movedTo path.segments).exists_records

theorem journaled_emitGroups {emit : Class → Action Unit} (each : ∀ decl, Journaled (emit decl))
    (groups : List (NamespacePath × List Class)) : Journaled (emitGroups emit groups) :=
  leads_emitGroups Recorded.trans (journaled_pure ())
    (journaled_onDraft fun draft => ⟨_, draft.records_flush⟩) journaled_enterNamespace each

theorem journaled_emitUnit (unit : ClassUnit) : Journaled (emitUnit unit) := by
  apply (journaled_emitGroups journaled_declareForward _).bind
  intro _
  apply (journaled_forM journaled_link).bind
  intro _
  apply (journaled_emitGroups journaled_declareBody _).bind
  intro _
  apply journaled_emitGroups
  intro decl
  exact (journaled_declareVtable decl).map _

/-- Every step has a journal. -/
theorem journaled_step (step : Step) : Journaled step.action := by
  cases step with
  | openNamespace path => exact (journaled_openNamespace path).bind fun _ => journaled_pure _
  | closeAll => exact journaled_closeAll.bind fun _ => journaled_pure _
  | forward decl => exact (journaled_declareForward decl).bind fun _ => journaled_pure _
  | body decl => exact (journaled_declareBody decl).bind fun _ => journaled_pure _
  | vtable decl => exact (journaled_declareVtable decl).bind fun _ => journaled_pure _
  | wholeUnit unit => exact (journaled_emitUnit unit).bind fun _ => journaled_pure _

end Generator

end VtableHeader
