import VtableHeader.Proofs.NamespaceBalance
import VtableHeader.Proofs.Placement

/-!
# Drafts as pieces

Namespace lines and blocks are written to different sections, which are put one behind the other
only when the draft is flushed.  An `Arrangement` is a draft as pieces: those that come before all
waiting blocks, and the blocks that wait in each section.  Every entry of a journal brings it up to
date, and the text of the draft is that of its pieces all along.

Blocks that wait are displaced by namespace lines.  `Arrayed` says that no block is: the pieces can
be replayed, each block inside the namespaces of its class.  Lines keep this up while no block
waits, or when they end in the same namespaces, and so do blocks of classes whose namespaces are
open.
-/

namespace VtableHeader

/-- The open namespaces after a change, where closing does nothing when none is open. -/
def Entry.moved (scope : List String) : Entry → List String
  | .opening segment => scope ++ [segment]
  | .closing => scope.dropLast
  | .blank | .block _ | .flush => scope

/-- What has been written: the pieces before all waiting blocks, and those blocks. -/
structure Arrangement where
  scope : List String := []
  front : List Piece := []
  classDecls : List Block := []
  vtables : List Block := []
  deriving DecidableEq, Repr

namespace Arrangement

/-- The waiting blocks in the order of their sections. -/
def waiting (arrangement : Arrangement) : List Block :=
  arrangement.classDecls ++ arrangement.vtables

/-- All pieces, in the order in which they are rendered. -/
def pieces (arrangement : Arrangement) : List Piece :=
  arrangement.front ++ arrangement.waiting.map .block

/-- The arrangement after a change. -/
def record (arrangement : Arrangement) : Entry → Arrangement
  | .opening segment =>
      { arrangement with
        scope := arrangement.scope ++ [segment]
        front := arrangement.front ++ [.opening arrangement.scope.length segment] }
  | .closing =>
      { arrangement with
        scope := arrangement.scope.dropLast
        front := arrangement.front ++ [.closing (arrangement.scope.length - 1)] }
  | .blank => { arrangement with front := arrangement.front ++ [.blank] }
  | .block content =>
      if content.place = .vtables then
        { arrangement with vtables := arrangement.vtables ++ [content] }
      else { arrangement with classDecls := arrangement.classDecls ++ [content] }
  | .flush => { scope := arrangement.scope, front := arrangement.pieces }

/-- The arrangement after the changes of a journal. -/
def recordAll (arrangement : Arrangement) (journal : List Entry) : Arrangement :=
  journal.foldl record arrangement

/-- No block is displaced: from the namespaces `start` the pieces replay to the open ones. -/
structure Arrayed (start : List String) (arrangement : Arrangement) : Prop where
  front : replayAll start arrangement.front = some arrangement.scope
  waiting : ∀ block ∈ arrangement.waiting, block.decl.path.segments = arrangement.scope

end Arrangement

/-- An arrangement is what a draft has written after the text `base`. -/
structure Draft.Shows (draft : Draft) (indentUnit base : String) (arrangement : Arrangement) :
    Prop where
  unit : draft.sections.indentUnit = indentUnit
  level : draft.Level
  scope : draft.scope = arrangement.scope
  front : draft.sections.flushed ++ draft.sections.head.text =
    base ++ piecesText indentUnit arrangement.front
  classDecls : draft.sections.classDecls.text =
    piecesText indentUnit (arrangement.classDecls.map .block)
  vtables : draft.sections.vtables.text = piecesText indentUnit (arrangement.vtables.map .block)

section Replaying

variable {scope next : List String}

theorem Entry.moved_eq_of_replay {entry : Entry} (replayed : entry.replay scope = some next) :
    entry.moved scope = next := by
  cases entry with
  | closing =>
      by_cases none : scope.isEmpty = true
      · simp [Entry.replay, none] at replayed
      · simpa [Entry.replay, Entry.moved, none] using replayed
  | opening segment => exact Option.some.inj replayed
  | blank => exact Option.some.inj replayed
  | block content => exact Option.some.inj replayed
  | flush => exact Option.some.inj replayed

theorem replayAll_inside {blocks : List Block}
    (inside : ∀ block ∈ blocks, block.decl.path.segments = scope) :
    replayAll scope (blocks.map .block) = some scope := by
  induction blocks with
  | nil => rfl
  | cons block rest ih =>
      rcases List.forall_mem_cons.mp inside with ⟨here, others⟩
      have step : replayAll scope [.block block] = some scope := by
        simp [replayAll, Piece.replay, here]
      rw [List.map_cons, ← List.singleton_append, replayAll_append step]
      exact ih others

end Replaying

namespace Arrangement

variable {arrangement : Arrangement} {start next : List String}

theorem recordAll_cons (entry : Entry) (rest : List Entry) :
    arrangement.recordAll (entry :: rest) = (arrangement.record entry).recordAll rest :=
  rfl

theorem recordAll_append (first second : List Entry) :
    arrangement.recordAll (first ++ second) =
      (arrangement.recordAll first).recordAll second :=
  List.foldl_append

theorem scope_record {entry : Entry} :
    (arrangement.record entry).scope = entry.moved arrangement.scope := by
  cases entry with
  | block content =>
      simp only [record, Entry.moved]
      split <;> rfl
  | opening segment => rfl
  | closing => rfl
  | blank => rfl
  | flush => rfl

/-- A line comes before all waiting blocks. -/
theorem record_line (arrangement : Arrangement) {entry : Entry} (line : entry.isLine = true)
    (replayed : entry.replay arrangement.scope = some next) :
    ∃ piece, piece.entry = entry ∧ piece.replay arrangement.scope = some next ∧
      (arrangement.record entry).front = arrangement.front ++ [piece] ∧
      (arrangement.record entry).waiting = arrangement.waiting := by
  cases entry with
  | opening segment =>
      obtain rfl : arrangement.scope ++ [segment] = next := Option.some.inj replayed
      exact ⟨.opening arrangement.scope.length segment, rfl, if_pos rfl, rfl, rfl⟩
  | closing =>
      obtain rfl := Entry.moved_eq_of_replay replayed
      have positive : 0 < arrangement.scope.length := by
        rw [List.length_pos_iff]
        intro none
        simp [Entry.replay, none] at replayed
      exact ⟨.closing (arrangement.scope.length - 1), rfl,
        if_pos (Nat.sub_add_cancel positive), rfl, rfl⟩
  | blank => exact ⟨.blank, rfl, replayed, rfl, rfl⟩
  | block content => simp [Entry.isLine] at line
  | flush => simp [Entry.isLine] at line

/-- Lines come before all waiting blocks. -/
theorem recordAll_lines (arrangement : Arrangement) {lines : List Entry}
    (plain : ∀ entry ∈ lines, entry.isLine = true)
    (replayed : openAfter arrangement.scope lines = some next) :
    ∃ pieces, pieces.map Piece.entry = lines ∧ replayAll arrangement.scope pieces = some next ∧
      (arrangement.recordAll lines).scope = next ∧
      (arrangement.recordAll lines).front = arrangement.front ++ pieces ∧
      (arrangement.recordAll lines).waiting = arrangement.waiting := by
  induction lines generalizing arrangement with
  | nil => exact ⟨[], rfl, replayed, Option.some.inj replayed, (List.append_nil _).symm, rfl⟩
  | cons entry rest ih =>
      rcases List.forall_mem_cons.mp plain with ⟨here, others⟩
      rcases openAfter_cons_iff.mp replayed with ⟨middle, stepped, later⟩
      rcases arrangement.record_line here stepped with ⟨piece, same, pieceReplayed, front, waiting⟩
      have scope : (arrangement.record entry).scope = middle :=
        scope_record.trans (Entry.moved_eq_of_replay stepped)
      rcases ih (arrangement.record entry) others (scope ▸ later) with
        ⟨pieces, sameRest, restReplayed, last, restFront, restWaiting⟩
      rw [scope] at restReplayed
      rw [recordAll_cons, restFront, restWaiting, front, waiting, List.append_assoc]
      have first : replayAll arrangement.scope [piece] = some middle := by
        simp [replayAll, pieceReplayed]
      have whole : replayAll arrangement.scope (piece :: pieces) = some next := by
        rw [← List.singleton_append, replayAll_append first, restReplayed]
      exact ⟨piece :: pieces, by rw [List.map_cons, same, sameRest], whole, last, rfl, rfl⟩

/-- A block joins those that wait. -/
theorem record_block (arrangement : Arrangement) (content : Block) :
    (arrangement.record (.block content)).scope = arrangement.scope ∧
      (arrangement.record (.block content)).front = arrangement.front ∧
      (arrangement.record (.block content)).waiting.Perm (arrangement.waiting ++ [content]) := by
  simp only [record]
  split
  · exact ⟨rfl, rfl, List.Perm.of_eq (List.append_assoc _ _ _).symm⟩
  · apply And.intro rfl
    apply And.intro rfl
    simp only [waiting, List.append_assoc]
    exact List.Perm.append_left _ List.perm_append_comm

/-- Blocks join those that wait. -/
theorem recordAll_blocks (arrangement : Arrangement) (blocks : List Block) :
    (arrangement.recordAll (blocks.map .block)).scope = arrangement.scope ∧
      (arrangement.recordAll (blocks.map .block)).front = arrangement.front ∧
      (arrangement.recordAll (blocks.map .block)).waiting.Perm (arrangement.waiting ++ blocks) := by
  induction blocks generalizing arrangement with
  | nil => simp [recordAll]
  | cons content rest ih =>
      rcases arrangement.record_block content with ⟨scope, front, waiting⟩
      rcases ih (arrangement.record (.block content)) with ⟨restScope, restFront, restWaiting⟩
      rw [List.map_cons, recordAll_cons, restScope, restFront]
      apply And.intro scope
      apply And.intro front
      apply restWaiting.trans
      simpa using waiting.append_right rest

@[simp]
theorem pieces_flush (arrangement : Arrangement) :
    (arrangement.record .flush).pieces = arrangement.pieces := by
  simp [record, pieces, waiting]

theorem mem_blocksOf_pieces_iff {block : Block} :
    block ∈ blocksOf arrangement.pieces ↔
      block ∈ blocksOf arrangement.front ∨ block ∈ arrangement.waiting := by
  rw [pieces, blocksOf_append, blocksOf_map_block, List.mem_append]

/-- Blocks come from the journal. -/
theorem mem_of_mem_blocksOf_record {entry : Entry} {block : Block}
    (member : block ∈ blocksOf (arrangement.record entry).pieces) :
    block ∈ blocksOf arrangement.pieces ∨ entry = .block block := by
  -- A line is not a block, so it adds none to the front.
  have frontLine : ∀ piece : Piece, piece.block? = none →
      blocksOf (arrangement.front ++ [piece]) = blocksOf arrangement.front := by
    intro piece line
    simp [blocksOf, line]
  cases entry with
  | block content =>
      rcases arrangement.record_block content with ⟨_, front, waiting⟩
      rw [mem_blocksOf_pieces_iff, front, waiting.mem_iff, List.mem_append,
        List.mem_singleton, ← or_assoc, ← mem_blocksOf_pieces_iff] at member
      exact member.imp_right fun same => congrArg Entry.block same.symm
  | flush => exact .inl (pieces_flush arrangement ▸ member)
  | opening segment =>
      rw [mem_blocksOf_pieces_iff, record, frontLine _ rfl] at member
      exact .inl (mem_blocksOf_pieces_iff.mpr member)
  | closing =>
      rw [mem_blocksOf_pieces_iff, record, frontLine _ rfl] at member
      exact .inl (mem_blocksOf_pieces_iff.mpr member)
  | blank =>
      rw [mem_blocksOf_pieces_iff, record, frontLine _ rfl] at member
      exact .inl (mem_blocksOf_pieces_iff.mpr member)

theorem mem_of_mem_blocksOf_recordAll {journal : List Entry} {block : Block}
    (member : block ∈ blocksOf (arrangement.recordAll journal).pieces) :
    block ∈ blocksOf arrangement.pieces ∨ .block block ∈ journal := by
  induction journal generalizing arrangement with
  | nil => exact .inl member
  | cons entry rest ih =>
      rcases ih member with old | later
      · rcases mem_of_mem_blocksOf_record old with older | rfl
        · exact .inl older
        · exact .inr List.mem_cons_self
      · exact .inr (List.mem_cons_of_mem entry later)

/-! ## Blocks that are not displaced -/

theorem arrayed_nothing (scope : List String) : Arrayed scope { scope := scope } where
  front := rfl
  waiting := by
    intro block member
    exact absurd member List.not_mem_nil

theorem Arrayed.replayed (arrayed : arrangement.Arrayed start) :
    replayAll start arrangement.pieces = some arrangement.scope := by
  unfold pieces
  rw [replayAll_append arrayed.front, replayAll_inside arrayed.waiting]

theorem Arrayed.flush (arrayed : arrangement.Arrayed start) :
    (arrangement.record .flush).Arrayed start where
  front := arrayed.replayed
  waiting := by
    intro block member
    exact absurd member List.not_mem_nil

/-- Lines displace no block if none waits, or if the same namespaces are open after them. -/
theorem Arrayed.lines {lines : List Entry} (arrayed : arrangement.Arrayed start)
    (plain : ∀ entry ∈ lines, entry.isLine = true)
    (replayed : openAfter arrangement.scope lines = some next)
    (still : next = arrangement.scope ∨ arrangement.waiting = []) :
    (arrangement.recordAll lines).Arrayed start := by
  rcases arrangement.recordAll_lines plain replayed with
    ⟨pieces, _, piecesReplayed, scope, front, waiting⟩
  constructor
  · rw [front, scope, replayAll_append arrayed.front, piecesReplayed]
  · rw [waiting, scope]
    rcases still with rfl | empty
    · exact arrayed.waiting
    · simp [empty]

/-- Blocks are not displaced where the namespaces of their classes are open. -/
theorem Arrayed.blocks {blocks : List Block} (arrayed : arrangement.Arrayed start)
    (inside : ∀ block ∈ blocks, block.decl.path.segments = arrangement.scope) :
    (arrangement.recordAll (blocks.map .block)).Arrayed start := by
  rcases arrangement.recordAll_blocks blocks with ⟨scope, front, waiting⟩
  constructor
  · rw [front, scope, arrayed.front]
  · intro block member
    rw [scope]
    rcases List.mem_append.mp (waiting.mem_iff.mp member) with old | new
    · exact arrayed.waiting block old
    · exact inside block new

end Arrangement

namespace Draft

variable {draft next : Draft} {indentUnit base : String} {arrangement : Arrangement}

/-- The text of a draft is that of its pieces. -/
theorem Shows.render_eq (shows : draft.Shows indentUnit base arrangement) :
    draft.sections.render = base ++ piecesText indentUnit arrangement.pieces := by
  simp only [Sections.render, Sections.waiting, Arrangement.pieces, Arrangement.waiting,
    List.map_append, piecesText_append, ← shows.classDecls, ← shows.vtables]
  rw [← String.append_assoc, ← String.append_assoc, shows.front]
  simp only [String.append_assoc]

theorem Shows.holds (shows : draft.Shows indentUnit base arrangement) :
    draft.Holds indentUnit (base ++ piecesText indentUnit arrangement.pieces) .vtables where
  rendered := shows.render_eq
  unit := shows.unit
  ends := trivial
  headDepth := shows.level.head
  classDepth := shows.level.classDecls
  vtableDepth := shows.level.vtables

/-- A line of the head comes before all waiting blocks. -/
theorem Shows.with_line {piece : Piece} {depth : Nat} {scope : List String}
    (shows : draft.Shows indentUnit base arrangement) (level : next.Level)
    (sameScope : next.scope = scope)
    (written : next.sections = { draft.sections with
      head := ⟨draft.sections.head.text ++ piece.text indentUnit, depth⟩ }) :
    next.Shows indentUnit base
      { arrangement with scope := scope, front := arrangement.front ++ [piece] } where
  unit := by rw [written]; exact shows.unit
  level := level
  scope := sameScope
  front := by
    have longer := congrArg (· ++ piece.text indentUnit) shows.front
    simpa [written, String.append_assoc] using longer
  classDecls := by rw [written]; exact shows.classDecls
  vtables := by rw [written]; exact shows.vtables

/-- A block comes behind those that wait in the same section. -/
theorem Shows.with_block (shows : draft.Shows indentUnit base arrangement) (content : Block)
    (level : next.Level) (sameScope : next.scope = arrangement.scope)
    (written : next.sections = draft.sections.update content.place fun pending =>
      { pending with text := pending.text ++ (Piece.block content).text indentUnit }) :
    next.Shows indentUnit base (arrangement.record (.block content)) := by
  have text : ∀ waiting : List Block, piecesText indentUnit ((waiting ++ [content]).map .block) =
      piecesText indentUnit (waiting.map .block) ++ (Piece.block content).text indentUnit := by
    simp
  have toClassDecls := text arrangement.classDecls
  have toVtables := text arrangement.vtables
  rw [← shows.classDecls] at toClassDecls
  rw [← shows.vtables] at toVtables
  rcases next with ⟨sections, scope⟩
  obtain rfl := written
  cases content with
  | forward decl =>
      exact { shows with level := level, scope := sameScope, classDecls := toClassDecls.symm }
  | body decl =>
      exact { shows with level := level, scope := sameScope, classDecls := toClassDecls.symm }
  | vtable decl slots =>
      exact { shows with level := level, scope := sameScope, vtables := toVtables.symm }

/-- A flush puts the waiting blocks behind everything before them. -/
theorem Shows.flush (shows : draft.Shows indentUnit base arrangement)
    (level : draft.flush.Level) :
    draft.flush.Shows indentUnit base (arrangement.record .flush) where
  unit := shows.unit
  level := level
  scope := shows.scope
  front := by
    change draft.sections.render ++ "" = base ++ piecesText indentUnit arrangement.pieces
    rw [String.append_empty, shows.render_eq]
  classDecls := rfl
  vtables := rfl

/-- Behind a flush everything written so far is fixed. -/
theorem shows_flush (level : draft.Level) (unit : draft.sections.indentUnit = indentUnit) :
    draft.flush.Shows indentUnit draft.sections.render { scope := draft.scope } where
  unit := unit
  level := level.entry draft.records_flush
  scope := rfl
  front := rfl
  classDecls := rfl
  vtables := rfl

/-- One entry keeps an arrangement up to date. -/
theorem Shows.entry {entry : Entry} (shows : draft.Shows indentUnit base arrangement)
    (records : draft.Records [entry] next) :
    next.Shows indentUnit base (arrangement.record entry) := by
  have level := shows.level.entry records
  have headDepth : draft.sections.head.depth = arrangement.scope.length := by
    rw [← shows.scope]
    exact shows.level.head
  rcases next with ⟨sections, scope⟩
  obtain rfl : sections = entry.write draft.sections := records.written
  have replayed : entry.replay draft.scope = some scope := by
    rw [← openAfter_singleton]
    exact records.replayed
  obtain rfl := Entry.moved_eq_of_replay replayed
  cases entry with
  | opening segment =>
      apply shows.with_line level (by rw [shows.scope]; rfl)
      rw [← headDepth, ← shows.unit]
      exact Entry.write_opening _ segment
  | closing =>
      apply shows.with_line level (by rw [shows.scope]; rfl)
      rw [← headDepth, ← shows.unit]
      exact Entry.write_closing _
  | blank => exact shows.with_line level shows.scope (Entry.write_blank _)
  | block content =>
      apply shows.with_block content level shows.scope
      rw [← shows.unit]
      apply Entry.write_block
      cases content with
      | forward decl => exact shows.level.classDecls
      | body decl => exact shows.level.classDecls
      | vtable decl slots => exact shows.level.vtables
  | flush => exact shows.flush level

/-- So does a journal. -/
theorem Shows.records {journal : List Entry} (shows : draft.Shows indentUnit base arrangement)
    (records : draft.Records journal next) :
    next.Shows indentUnit base (arrangement.recordAll journal) := by
  induction journal generalizing draft arrangement with
  | nil =>
      rcases next with ⟨sections, scope⟩
      obtain rfl : sections = draft.sections := records.written
      obtain rfl : draft.scope = scope := Option.some.inj records.replayed
      exact shows
  | cons entry rest ih =>
      rcases records_cons_iff.mp records with ⟨middle, first, others⟩
      exact ih (shows.entry first) others

end Draft

/-- At the start there is nothing behind the preamble. -/
theorem Generator.shows_start (options : Options) :
    (start options).draft.Shows options.indentUnit (preambleText options) {} := by
  have holds := holds_start options
  have empty : (start options).draft.sections.classDecls.text = "" ∧
      (start options).draft.sections.vtables.text = "" := by
    unfold start preamble
    by_cases global : options.runtimeNamespace.isEmpty = true
    · simp only [global, if_true]
      exact ⟨rfl, rfl⟩
    · simp only [global]
      exact ⟨rfl, rfl⟩
  have rendered := holds.rendered
  simp only [Sections.render, Sections.waiting, empty, String.append_empty] at rendered
  exact {
    unit := holds.unit
    level := level_start options
    scope := rfl
    front := by rw [rendered]; simp
    classDecls := empty.1
    vtables := empty.2 }

end VtableHeader
