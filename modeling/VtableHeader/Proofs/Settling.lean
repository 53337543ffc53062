import VtableHeader.Proofs.Arrangement

/-!
# Where blocks settle

A block need not stand where it was written.  The blocks that wait for a flush come behind all
namespace lines before it, so they stand inside the namespaces that are open then.  The place of
every block of a finished header can therefore be read off the journal: it is the namespaces open
at the next flush, or at the end if there is none.
-/

namespace VtableHeader

/-- The blocks among changes, each with the namespaces that are open where it stands. -/
def enclosures : List String → List Entry → List (Block × List String)
  | _, [] => []
  | scope, .block content :: rest => (content, scope) :: enclosures scope rest
  | scope, entry :: rest => enclosures (entry.moved scope) rest

/-- The open namespaces at the next flush, or at the end if there is none. -/
def settling : List String → List Entry → List String
  | scope, [] => scope
  | scope, .flush :: _ => scope
  | scope, entry :: rest => settling (entry.moved scope) rest

/-- The blocks of a journal, each with the namespaces in which it settles. -/
def settlements : List String → List Entry → List (Block × List String)
  | _, [] => []
  | scope, .block content :: rest => (content, settling scope rest) :: settlements scope rest
  | scope, entry :: rest => settlements (entry.moved scope) rest

/-- A block has the namespaces of its class around it. -/
def InPlace (placed : Block × List String) : Prop :=
  placed.1.decl.path.segments = placed.2

instance (placed : Block × List String) : Decidable (InPlace placed) :=
  inferInstanceAs (Decidable (_ = _))

namespace Arrangement

/-- The blocks of an arrangement, each with the namespaces around it. -/
def placed (arrangement : Arrangement) : List (Block × List String) :=
  enclosures [] (arrangement.pieces.map Piece.entry)

/-- The namespace lines of an arrangement replay to its open namespaces. -/
def Sound (arrangement : Arrangement) : Prop :=
  openAfter [] (arrangement.front.map Piece.entry) = some arrangement.scope

end Arrangement

section Enclosures

variable {scope middle : List String}

theorem enclosures_append {first second : List Entry}
    (begins : openAfter scope first = some middle) :
    enclosures scope (first ++ second) = enclosures scope first ++ enclosures middle second := by
  induction first generalizing scope with
  | nil =>
      obtain rfl : scope = middle := Option.some.inj begins
      rfl
  | cons entry rest ih =>
      rcases openAfter_cons_iff.mp begins with ⟨between, stepped, later⟩
      obtain rfl := Entry.moved_eq_of_replay stepped
      cases entry with
      | block content => exact congrArg ((content, scope) :: ·) (ih later)
      | opening segment => exact ih later
      | closing => exact ih later
      | blank => exact ih later
      | flush => exact ih later

theorem enclosures_blocks (scope : List String) (blocks : List Block) :
    enclosures scope (blocks.map .block) = blocks.map (·, scope) := by
  induction blocks with
  | nil => rfl
  | cons block rest ih => exact congrArg ((block, scope) :: ·) ih

/-- Lines of the head hold no blocks. -/
theorem enclosures_lines {lines : List Entry} (plain : ∀ entry ∈ lines, entry.isLine = true) :
    enclosures scope lines = [] := by
  induction lines generalizing scope with
  | nil => rfl
  | cons entry rest ih =>
      rcases List.forall_mem_cons.mp plain with ⟨here, others⟩
      cases entry with
      | block content => simp [Entry.isLine] at here
      | flush => simp [Entry.isLine] at here
      | opening segment => exact ih others
      | closing => exact ih others
      | blank => exact ih others

end Enclosures

/-! ## Arrangements -/

namespace Arrangement

variable {arrangement : Arrangement} {next : List String}

/-- The waiting blocks stand inside the namespaces that are open at the end. -/
theorem Sound.placed_eq (sound : arrangement.Sound) :
    arrangement.placed =
      enclosures [] (arrangement.front.map Piece.entry) ++
        arrangement.waiting.map (·, arrangement.scope) := by
  unfold placed pieces
  rw [List.map_append, enclosures_append sound, List.map_map]
  exact congrArg _ (enclosures_blocks arrangement.scope arrangement.waiting)

theorem Sound.openAfter_pieces (sound : arrangement.Sound) :
    openAfter [] (arrangement.pieces.map Piece.entry) = some arrangement.scope := by
  unfold pieces
  rw [List.map_append, openAfter_append sound, List.map_map]
  exact openAfter_blocks arrangement.scope arrangement.waiting

theorem Sound.record {entry : Entry} (sound : arrangement.Sound)
    (replayed : entry.replay arrangement.scope = some next) :
    (arrangement.record entry).Sound := by
  unfold Sound
  rw [scope_record, Entry.moved_eq_of_replay replayed]
  by_cases line : entry.isLine = true
  · rcases arrangement.record_line line replayed with ⟨piece, rfl, _, front, _⟩
    rw [front, List.map_append, openAfter_append sound]
    exact (openAfter_singleton arrangement.scope piece.entry).trans replayed
  · cases entry with
    | block content =>
        rw [(arrangement.record_block content).2.1]
        exact sound.trans replayed
    | flush => exact sound.openAfter_pieces.trans replayed
    | opening segment => exact absurd rfl line
    | closing => exact absurd rfl line
    | blank => exact absurd rfl line

theorem Sound.recordAll {journal : List Entry} (sound : arrangement.Sound)
    (replayed : openAfter arrangement.scope journal = some next) :
    (arrangement.recordAll journal).Sound ∧ (arrangement.recordAll journal).scope = next := by
  induction journal generalizing arrangement with
  | nil => exact ⟨sound, Option.some.inj replayed⟩
  | cons entry rest ih =>
      rcases openAfter_cons_iff.mp replayed with ⟨middle, stepped, later⟩
      apply ih (sound.record stepped)
      rw [scope_record, Entry.moved_eq_of_replay stepped]
      exact later

/-- Every block stands in the namespaces that are open at the next flush after it was written. -/
theorem Sound.placed_recordAll_perm {journal : List Entry} (sound : arrangement.Sound)
    (replayed : openAfter arrangement.scope journal = some next) :
    (arrangement.recordAll journal).placed.Perm
      (enclosures [] (arrangement.front.map Piece.entry) ++
        (arrangement.waiting.map (·, settling arrangement.scope journal) ++
          settlements arrangement.scope journal)) := by
  -- The blocks that wait settle with those that are written before the next flush.
  induction journal generalizing arrangement with
  | nil =>
      change arrangement.placed.Perm _
      rw [sound.placed_eq, settlements, List.append_nil]
      exact .refl _
  | cons entry rest ih =>
      rcases openAfter_cons_iff.mp replayed with ⟨middle, stepped, later⟩
      have others := ih (sound.record stepped) (by
        rw [scope_record, Entry.moved_eq_of_replay stepped]
        exact later)
      rw [scope_record] at others
      rw [recordAll_cons]
      by_cases line : entry.isLine = true
      · rcases arrangement.record_line line stepped with ⟨piece, same, _, front, waiting⟩
        have nothing : enclosures arrangement.scope [entry] = [] :=
          enclosures_lines (by simpa using line)
        rw [front, waiting, List.map_append, enclosures_append sound, List.map_singleton, same,
          nothing, List.append_nil] at others
        cases entry with
        | opening segment => exact others
        | closing => exact others
        | blank => exact others
        | block content => simp [Entry.isLine] at line
        | flush => simp [Entry.isLine] at line
      · cases entry with
        | block content =>
            rcases arrangement.record_block content with ⟨_, front, waiting⟩
            have settled := (waiting.map (·, settling arrangement.scope rest)).append_right
              (settlements arrangement.scope rest)
            rw [List.map_append, List.append_assoc] at settled
            apply others.trans
            rw [front]
            exact settled.append_left _
        | flush =>
            apply others.trans
            change (arrangement.placed ++ settlements arrangement.scope rest).Perm _
            rw [sound.placed_eq, List.append_assoc]
            exact .refl _
        | opening segment => exact absurd rfl line
        | closing => exact absurd rfl line
        | blank => exact absurd rfl line

end Arrangement

namespace Generator

variable {options : Options} {generator : Generator} {journal : List Entry}

/-- The pieces of a finished header: what the journal wrote, and the last closings. -/
def finishedPieces (journal : List Entry) : List Piece :=
  let written := Arrangement.recordAll {} journal
  written.pieces ++ closings written.scope.length written.scope.length

theorem finish_eq_pieces (records : (start options).draft.Records journal generator.draft) :
    generator.finish =
      preambleText options ++ piecesText options.indentUnit (finishedPieces journal) := by
  have shows := (shows_start options).records records
  have finished := shows.holds.finish
  rw [shows.scope, String.append_assoc, ← piecesText_append] at finished
  exact finished

theorem sound_recordAll {scope : List String} (replayed : openAfter [] journal = some scope) :
    (Arrangement.recordAll {} journal).Sound := by
  have nothing : Arrangement.Sound {} := rfl
  exact (nothing.recordAll replayed).1

/-- A finished header leaves no namespace open. -/
theorem openAfter_finishedPieces {scope : List String}
    (replayed : openAfter [] journal = some scope) :
    openAfter [] ((finishedPieces journal).map Piece.entry) = some [] := by
  have sound := sound_recordAll replayed
  rw [finishedPieces, List.map_append, openAfter_append sound.openAfter_pieces,
    map_entry_closings, openAfter_closings _ (Nat.le_refl _), Nat.sub_self, List.take_zero]

/-- In a finished header every block stands where the journal settles it. -/
theorem enclosures_finishedPieces_perm {scope : List String}
    (replayed : openAfter [] journal = some scope) :
    (enclosures [] ((finishedPieces journal).map Piece.entry)).Perm (settlements [] journal) := by
  have sound := sound_recordAll replayed
  have nothing : Arrangement.Sound {} := rfl
  have plain : ∀ count, ∀ entry ∈ List.replicate count Entry.closing, entry.isLine = true := by
    intro count entry closing
    rw [List.eq_of_mem_replicate closing]
    rfl
  rw [finishedPieces, List.map_append, enclosures_append sound.openAfter_pieces,
    map_entry_closings, enclosures_lines (plain _), List.append_nil]
  exact nothing.placed_recordAll_perm replayed

end Generator

end VtableHeader
