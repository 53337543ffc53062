import VtableHeader.Proofs.Arrangement
import VtableHeader.Proofs.FailedSteps

/-!
# Orderly emission

A whole unit is written group by group.  For each group everything before it is flushed, lines lead
to its namespace, and the blocks of its classes follow.  Wherever the emission fails, what it has
written by then is a journal of this form, `Orderly`.  Such a journal displaces no block, and since
it begins with a flush, all that it writes comes behind the text that was there before.
-/

namespace VtableHeader

/-- Journals of groups: a flush, lines of the head, and `allowed` blocks of classes whose
namespaces are open after these lines. -/
inductive Orderly (allowed : Block → Prop) : List String → List Entry → Prop where
  | nil (scope : List String) : Orderly allowed scope []
  | group {scope middle : List String} {lines rest : List Entry} {blocks : List Block}
      (plain : ∀ entry ∈ lines, entry.isLine = true) (entered : openAfter scope lines = some middle)
      (inside : ∀ block ∈ blocks, allowed block ∧ block.decl.path.segments = middle)
      (follows : Orderly allowed middle rest) :
      Orderly allowed scope (.flush :: (lines ++ (blocks.map .block ++ rest)))

/-- Groups of allowed blocks lead from one draft to another. -/
def Draft.Extends (allowed : Block → Prop) (draft next : Draft) : Prop :=
  ∃ journal, draft.Records journal next ∧ Orderly allowed draft.scope journal

/-- Only wanted blocks lead from one draft to another. -/
def Draft.Fills (wanted : Block → Prop) (draft next : Draft) : Prop :=
  ∃ blocks : List Block, draft.Records (blocks.map .block) next ∧ ∀ block ∈ blocks, wanted block

variable {allowed wanted : Block → Prop}

namespace Orderly

variable {scope middle : List String} {journal first second : List Entry}

theorem append (begins : Orderly allowed scope first)
    (replayed : openAfter scope first = some middle) (continues : Orderly allowed middle second) :
    Orderly allowed scope (first ++ second) := by
  induction begins with
  | nil scope =>
      obtain rfl : scope = middle := Option.some.inj replayed
      exact continues
  | @group scope between lines rest blocks plain entered inside _ ih =>
      have later : openAfter between rest = some middle := by
        rw [← replayed, ← List.append_assoc]
        change _ = openAfter scope ((lines ++ blocks.map .block) ++ rest)
        have reached : openAfter scope (lines ++ blocks.map .block) = some between := by
          rw [openAfter_append entered, openAfter_blocks]
        rw [openAfter_append reached]
      simpa using group plain entered inside (ih later)

theorem mono {more : Block → Prop} (weaker : ∀ block, allowed block → more block)
    (orderly : Orderly allowed scope journal) : Orderly more scope journal := by
  induction orderly with
  | nil scope => exact .nil scope
  | group plain entered inside _ ih =>
      apply group plain entered _ ih
      intro block member
      rcases inside block member with ⟨fine, home⟩
      exact ⟨weaker block fine, home⟩

theorem allowed_of_mem (orderly : Orderly allowed scope journal) {block : Block}
    (member : .block block ∈ journal) : allowed block := by
  induction orderly with
  | nil scope => simp at member
  | @group _ _ lines rest blocks plain entered inside _ ih =>
      simp only [List.mem_cons, reduceCtorEq, false_or, List.mem_append, List.mem_map,
        Entry.block.injEq, exists_eq_right] at member
      rcases member with line | here | later
      · exact absurd (plain _ line) (by simp [Entry.isLine])
      · exact (inside block here).1
      · exact ih later

/-- Orderly journals displace no block. -/
theorem arrayed {start : List String} {arrangement : Arrangement}
    (orderly : Orderly allowed arrangement.scope journal)
    (arrayed : arrangement.Arrayed start) : (arrangement.recordAll journal).Arrayed start := by
  generalize same : arrangement.scope = scope at orderly
  induction orderly generalizing arrangement with
  | nil scope => exact arrayed
  | @group scope middle lines rest blocks plain entered inside _ ih =>
      subst same
      have flushed := arrayed.flush
      have moved := flushed.lines plain entered (.inr rfl)
      rcases (arrangement.record .flush).recordAll_lines plain entered with ⟨_, _, _, reached, _⟩
      have filled := moved.blocks fun block member =>
        ((inside block member).2).trans reached.symm
      rw [Arrangement.recordAll_cons, Arrangement.recordAll_append, Arrangement.recordAll_append]
      apply ih filled
      rw [(Arrangement.recordAll_blocks _ blocks).1, reached]

end Orderly

namespace Draft

variable {draft middle next : Draft} {indentUnit : String}

theorem extends_refl (allowed : Block → Prop) (draft : Draft) : draft.Extends allowed draft :=
  ⟨[], .nil draft, .nil draft.scope⟩

theorem Extends.trans (begins : draft.Extends allowed middle)
    (continues : middle.Extends allowed next) : draft.Extends allowed next := by
  obtain ⟨first, records, orderly⟩ := begins
  obtain ⟨second, recordsRest, orderlyRest⟩ := continues
  exact ⟨first ++ second, records.append recordsRest,
    orderly.append records.replayed orderlyRest⟩

theorem Extends.mono {more : Block → Prop} (extending : draft.Extends allowed next)
    (weaker : ∀ block, allowed block → more block) : draft.Extends more next := by
  obtain ⟨journal, records, orderly⟩ := extending
  exact ⟨journal, records, orderly.mono weaker⟩

theorem fills_refl (wanted : Block → Prop) (draft : Draft) : draft.Fills wanted draft :=
  ⟨[], .nil draft, by simp⟩

theorem Fills.trans (begins : draft.Fills wanted middle) (continues : middle.Fills wanted next) :
    draft.Fills wanted next := by
  obtain ⟨first, records, fine⟩ := begins
  obtain ⟨second, recordsRest, fineRest⟩ := continues
  exact ⟨first ++ second, List.map_append ▸ records.append recordsRest,
    List.forall_mem_append.mpr ⟨fine, fineRest⟩⟩

theorem Fills.mono {more : Block → Prop} (fills : draft.Fills wanted next)
    (weaker : ∀ block, wanted block → more block) : draft.Fills more next := by
  obtain ⟨blocks, records, fine⟩ := fills
  exact ⟨blocks, records, fun block member => weaker block (fine block member)⟩

/-- A flush, a move and the blocks of a group. -/
theorem extends_of_moves (moves : draft.flush.Moves middle) (fills : middle.Fills wanted next)
    (inside : ∀ block, wanted block → allowed block ∧ block.decl.path.segments = middle.scope) :
    draft.Extends allowed next := by
  obtain ⟨lines, entered, plain⟩ := moves
  obtain ⟨blocks, filled, fine⟩ := fills
  have orderly : Orderly allowed draft.scope (.flush :: (lines ++ (blocks.map .block ++ []))) :=
    .group plain entered.replayed (fun block member => inside block (fine block member))
      (.nil middle.scope)
  have records := draft.records_flush.append (entered.append filled)
  rw [List.append_nil] at orderly
  exact ⟨_, records, orderly⟩

/-- What an orderly journal writes comes behind the text that was there, with no block displaced. -/
theorem Extends.exists_render_eq (extending : draft.Extends allowed next) (level : draft.Level)
    (unit : draft.sections.indentUnit = indentUnit) :
    ∃ pieces, next.sections.render = draft.sections.render ++ piecesText indentUnit pieces ∧
      replayAll draft.scope pieces = some next.scope ∧
      ∀ block ∈ blocksOf pieces, allowed block := by
  obtain ⟨journal, records, orderly⟩ := extending
  let arrangement := Arrangement.recordAll { scope := draft.scope } journal
  have arrayed : arrangement.Arrayed draft.scope :=
    orderly.arrayed (Arrangement.arrayed_nothing draft.scope)
  have fine : ∀ block ∈ blocksOf arrangement.pieces, allowed block := by
    intro block member
    rcases Arrangement.mem_of_mem_blocksOf_recordAll member with none | written
    · exact absurd none List.not_mem_nil
    · exact orderly.allowed_of_mem written
  have shown : next.sections.render =
      draft.sections.render ++ piecesText indentUnit arrangement.pieces ∧
        next.scope = arrangement.scope := by
    cases orderly with
    | nil =>
        have same : next.sections = draft.sections := records.written
        rw [same]
        exact ⟨String.append_empty.symm, (Option.some.inj records.replayed).symm⟩
    | group plain entered inside follows =>
        -- A flush of nothing adds no piece, so the rest of the journal gives the same pieces.
        rcases records_cons_iff.mp records with ⟨middle, first, others⟩
        have flushed : middle = draft.flush := by
          rcases middle with ⟨sections, scope⟩
          obtain rfl : sections = draft.sections.flush := first.written
          obtain rfl : draft.scope = scope := Option.some.inj first.replayed
          rfl
        subst flushed
        have shows := (shows_flush level unit).records others
        exact ⟨shows.render_eq, shows.scope⟩
  rw [shown.2]
  exact ⟨arrangement.pieces, shown.1, arrayed.replayed, fine⟩

end Draft

namespace Generator

/-! ## Units -/

/-- Groups of allowed blocks lead from one generator to another. -/
def Extending (allowed : Block → Prop) (generator next : Generator) : Prop :=
  generator.draft.Extends allowed next.draft

/-- Only wanted blocks lead from one generator to another. -/
def Filling (wanted : Block → Prop) (generator next : Generator) : Prop :=
  generator.draft.Fills wanted next.draft

theorem extending_refl (generator : Generator) : Extending allowed generator generator :=
  generator.draft.extends_refl allowed

theorem Extending.trans (first second third : Generator) (begins : Extending allowed first second)
    (continues : Extending allowed second third) : Extending allowed first third :=
  Draft.Extends.trans begins continues

theorem filling_refl (generator : Generator) : Filling wanted generator generator :=
  generator.draft.fills_refl wanted

theorem Filling.trans (first second third : Generator) (begins : Filling wanted first second)
    (continues : Filling wanted second third) : Filling wanted first third :=
  Draft.Fills.trans begins continues

theorem filling_block {generator next : Generator} {content : Block} (fine : wanted content)
    (written : next.draft =
      generator.draft.onSections (·.block content.place content.lines)) :
    Filling wanted generator next := by
  unfold Filling
  rw [written]
  exact ⟨[content], generator.draft.records_block content, by simpa using fine⟩

theorem filling_declareForward (decl : Class) :
    Leads (Filling (· = .forward decl)) (declareForward decl) := by
  apply leads_of_unspoiled filling_refl fun _ => unspoiled_declareForward decl
  intro generator _ next declared
  rcases perform_declareForward_eq_ok_iff.mp declared with ⟨_, _, rfl⟩
  exact filling_block rfl rfl

theorem filling_declareBody (decl : Class) :
    Leads (Filling (· = .body decl)) (declareBody decl) := by
  apply leads_of_unspoiled filling_refl fun _ => unspoiled_declareBody decl
  intro generator _ next written
  rcases perform_declareBody_eq_ok_iff.mp written with ⟨_, rfl⟩
  exact filling_block rfl rfl

theorem filling_declareVtable (decl : Class) :
    Leads (Filling fun block => ∃ slots, block = .vtable decl slots) (declareVtable decl) := by
  apply leads_of_unspoiled filling_refl fun _ => unspoiled_declareVtable decl
  intro generator slots next written
  rcases perform_declareVtable_eq_ok_iff.mp written with ⟨_, _, rfl⟩
  exact filling_block ⟨slots, rfl⟩ rfl

/-- One group writes blocks of its own classes, wherever it fails. -/
theorem extending_emitGroup {emit : Class → Action Unit} {wanted : Class → Block → Prop}
    {path : NamespacePath} {classes : List Class}
    (each : ∀ decl, Leads (Filling (wanted decl)) (emit decl))
    (owned : ∀ decl block, wanted decl block → block.decl = decl)
    (home : ∀ decl ∈ classes, decl.path = path) :
    Leads (Extending fun block => ∃ decl ∈ classes, wanted decl block)
      (emitGroup emit (path, classes)) := by
  intro generator
  have fills : Leads (Filling fun block => ∃ decl ∈ classes, wanted decl block)
      (classes.forM emit) := by
    apply leads_forM Filling.trans filling_refl
    intro decl member generator
    exact (each decl generator).mono fun block fine => ⟨decl, member, fine⟩
  rw [emitGroup, perform_onDraft_bind, perform_bind]
  cases outcome : Generator.perform { generator with draft := generator.draft.flush }
      (enterNamespace path) with
  | mk result entered =>
      cases result with
      | error error =>
          rw [unspoiled_enterNamespace path error entered outcome]
          exact Draft.extends_of_moves (Draft.moves_refl _) (Draft.fills_refl (fun _ => False) _)
            (by simp)
      | ok answer =>
          rcases perform_enterNamespace_eq_ok_iff.mp outcome with ⟨_, rfl⟩
          have filled := fills { generator with
            draft := generator.draft.flush.movedTo path.segments }
          apply Draft.extends_of_moves (Draft.moves_movedTo _ path.segments) filled
          rintro block ⟨decl, member, fine⟩
          apply And.intro ⟨decl, member, fine⟩
          rw [owned decl block fine, home decl member, Draft.scope_movedTo]

/-- A pass over the groups of a unit writes blocks of its classes, wherever it fails. -/
theorem extending_emitGroups {emit : Class → Action Unit} {wanted : Class → Block → Prop}
    (classes : List Class) (each : ∀ decl, Leads (Filling (wanted decl)) (emit decl))
    (owned : ∀ decl block, wanted decl block → block.decl = decl) :
    Leads (Extending fun block => ∃ decl ∈ classes, wanted decl block)
      (emitGroups emit (groups classes)) := by
  apply leads_forM Extending.trans extending_refl
  rintro ⟨path, members⟩ grouped generator
  have home : ∀ decl ∈ members, decl.path = path :=
    fun decl member => path_eq_of_mem_group grouped member
  apply (extending_emitGroup each owned home generator).mono
  rintro block ⟨decl, member, fine⟩
  exact ⟨decl, mem_of_mem_group grouped member, fine⟩

/-- Linking writes nothing. -/
theorem extending_link (decl : Class) : Leads (Extending allowed) (link decl) := by
  apply leads_of_unspoiled extending_refl fun _ => unspoiled_link decl
  intro generator _ next linked
  rcases perform_link_eq_ok_iff.mp linked with ⟨_, slots, _, rfl⟩
  exact generator.draft.extends_refl allowed

theorem extending_links (classes : List Class) :
    Leads (Extending allowed) (classes.forM link) :=
  leads_forM Extending.trans extending_refl fun decl _ => extending_link decl

/-- A whole unit writes blocks of its classes, wherever it fails. -/
theorem extending_emitUnit (unit : ClassUnit) :
    Leads (Extending fun block => block.decl ∈ unit.classes) (emitUnit unit) := by
  have pass : ∀ {emit : Class → Action Unit} {wanted : Class → Block → Prop},
      (∀ decl, Leads (Filling (wanted decl)) (emit decl)) →
      (∀ decl block, wanted decl block → block.decl = decl) →
      Leads (Extending fun block => block.decl ∈ unit.classes)
        (emitGroups emit (groups unit.classes)) := by
    intro emit wanted each owned generator
    apply (extending_emitGroups unit.classes each owned generator).mono
    rintro block ⟨decl, member, fine⟩
    rw [owned decl block fine]
    exact member
  apply (pass filling_declareForward (by rintro decl block rfl; rfl)).bind Extending.trans
  intro _
  apply (extending_links unit.classes).bind Extending.trans
  intro _
  apply (pass filling_declareBody (by rintro decl block rfl; rfl)).bind Extending.trans
  intro _
  apply pass fun decl => (filling_declareVtable decl).map _
  rintro decl block ⟨slots, rfl⟩
  rfl

end Generator

end VtableHeader
