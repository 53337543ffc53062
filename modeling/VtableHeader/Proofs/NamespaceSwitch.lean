import VtableHeader.Proofs.Journal

/-!
# Switching between namespaces

A switch from the open namespaces to others leaves alone what both have in common.  The segments
behind the longest common prefix are closed from the inside out, those that are missing are opened,
and the head gets one line for each, with an empty line where closings meet openings.

Nothing in a switch depends on the common prefix: the lines replay just as well from what is left of
the open namespaces without it.  So the prefix stays open all along.
-/

namespace VtableHeader

/-- The longest common prefix of two paths, and what each path has behind it. -/
structure Parts (scope segments shared left wanted : List String) : Prop where
  scope_eq : scope = shared ++ left
  segments_eq : segments = shared ++ wanted
  longest : ∀ other, other <+: scope → other <+: segments → other <+: shared

/-- No common prefix is longer than the common depth. -/
theorem length_le_commonDepth {other first second : List String} (left : other <+: first)
    (right : other <+: second) : other.length ≤ commonDepth first second := by
  induction other generalizing first second with
  | nil => exact Nat.zero_le _
  | cons segment rest ih =>
      obtain ⟨firstRest, rfl, leftRest⟩ := List.cons_prefix_iff.mp left
      obtain ⟨secondRest, rfl, rightRest⟩ := List.cons_prefix_iff.mp right
      rw [commonDepth, if_pos rfl]
      exact Nat.succ_le_succ (ih leftRest rightRest)

/-- The segments up to the common depth are the longest common prefix. -/
theorem parts_commonDepth (scope segments : List String) :
    Parts scope segments (scope.take (commonDepth scope segments))
      (scope.drop (commonDepth scope segments)) (segments.drop (commonDepth scope segments)) where
  scope_eq := (List.take_append_drop _ _).symm
  segments_eq := by rw [take_commonDepth, List.take_append_drop]
  longest := by
    intro other left right
    exact List.prefix_take_iff.mpr ⟨left, length_le_commonDepth left right⟩

/-- A path has no more in common with another one than with itself. -/
theorem parts_self (segments : List String) : Parts segments segments segments [] [] where
  scope_eq := (List.append_nil _).symm
  segments_eq := (List.append_nil _).symm
  longest := fun _ left _ => left

theorem Parts.commonDepth_eq {scope segments shared left wanted : List String}
    (parts : Parts scope segments shared left wanted) :
    commonDepth scope segments = shared.length := by
  have inScope : shared <+: scope := parts.scope_eq ▸ List.prefix_append shared left
  have inSegments : shared <+: segments := parts.segments_eq ▸ List.prefix_append shared wanted
  have atLeast := length_le_commonDepth inScope inSegments
  have common := parts.longest _ (List.take_prefix (commonDepth scope segments) scope)
    (take_commonDepth scope segments ▸ List.take_prefix _ segments)
  have atMost := common.length_le
  rw [List.length_take, Nat.min_eq_left (commonDepth_le_left scope segments)] at atMost
  exact Nat.le_antisymm atMost atLeast

/-- The lines of a switch that finds the head at `depth`: the closings of `left` from the inside
out, an empty line between closings and openings, and the openings of `wanted`, each inside the one
before. -/
def switching (depth : Nat) (left wanted : List String) : List Piece :=
  closings depth left.length ++ spacing (left ≠ [] ∧ wanted ≠ []) ++
    openings (depth - left.length) wanted

namespace Sections

/-- The sections with more text in the head, which is then at `depth`. -/
def extendHead (sections : Sections) (pieces : List Piece) (depth : Nat) : Sections :=
  { sections with
    head := ⟨sections.head.text ++ piecesText sections.indentUnit pieces, depth⟩ }

variable (sections : Sections)

theorem extendHead_nil : sections.extendHead [] sections.head.depth = sections := by
  simp [extendHead]

theorem extendHead_extendHead (first second : List Piece) (middle depth : Nat) :
    (sections.extendHead first middle).extendHead second depth =
      sections.extendHead (first ++ second) depth := by
  simp [extendHead, String.append_assoc]

theorem closeNamespaces_eq (count : Nat) :
    sections.closeNamespaces count =
      sections.extendHead (closings sections.head.depth count) (sections.head.depth - count) := by
  induction count generalizing sections with
  | zero => exact sections.extendHead_nil.symm
  | succ count ih =>
      have step : (sections.dedent .head).line .head closingLine =
          sections.extendHead [.closing (sections.head.depth - 1)] (sections.head.depth - 1) := by
        simp only [extendHead, piecesText_cons, piecesText_nil, String.append_empty]
        exact Entry.write_closing sections
      have rest := ih ((sections.dedent .head).line .head closingLine)
      rw [step, extendHead_extendHead] at rest
      rw [closeNamespaces, step, rest]
      exact congrArg (sections.extendHead _) (by simp only [extendHead]; omega)

theorem spaced_eq (wanted : Prop) [Decidable wanted] :
    (if wanted then sections.blank .head else sections) =
      sections.extendHead (spacing wanted) sections.head.depth := by
  unfold spacing
  split
  · simp only [extendHead, piecesText_cons, piecesText_nil, String.append_empty]
    exact Entry.write_blank sections
  · exact sections.extendHead_nil.symm

theorem openNamespaces_eq (segments : List String) :
    sections.openNamespaces segments =
      sections.extendHead (openings sections.head.depth segments)
        (sections.head.depth + segments.length) := by
  induction segments generalizing sections with
  | nil => exact sections.extendHead_nil.symm
  | cons segment rest ih =>
      have step : (sections.line .head (openingLine segment)).indent .head =
          sections.extendHead [.opening sections.head.depth segment] (sections.head.depth + 1) := by
        simp only [extendHead, piecesText_cons, piecesText_nil, String.append_empty]
        exact Entry.write_opening sections segment
      have others := ih ((sections.line .head (openingLine segment)).indent .head)
      rw [step, extendHead_extendHead] at others
      change ((sections.line .head (openingLine segment)).indent .head).openNamespaces rest = _
      rw [step, others]
      exact congrArg (sections.extendHead _) (by simp only [extendHead, List.length_cons]; omega)

end Sections

namespace Draft

variable {draft : Draft} {segments shared left wanted : List String}

/-- A switch writes its lines to the head and changes nothing else of the text. -/
theorem switchTo_eq (parts : Parts draft.scope segments shared left wanted) :
    draft.switchTo segments =
      ({ sections := draft.sections.extendHead (switching draft.sections.head.depth left wanted)
          (draft.sections.head.depth - left.length + wanted.length),
         scope := segments },
        left.length + wanted.length) := by
  have common := parts.commonDepth_eq
  have count : draft.scope.length - shared.length = left.length := by
    rw [parts.scope_eq, List.length_append, Nat.add_sub_cancel_left]
  have missing : segments.drop shared.length = wanted := by
    rw [parts.segments_eq, List.drop_left]
  have apart : spacing (0 < left.length ∧ shared.length < segments.length) =
      spacing (left ≠ [] ∧ wanted ≠ []) := by
    simp only [spacing, List.length_pos_iff, parts.segments_eq, List.length_append,
      Nat.lt_add_right_iff_pos]
  have kept : draft.scope.take shared.length ++ wanted = segments := by
    rw [parts.scope_eq, List.take_left, parts.segments_eq]
  simp only [switchTo, closeTo, common, count, missing, kept, Sections.spaced_eq, apart,
    Sections.closeNamespaces_eq, Sections.openNamespaces_eq, Sections.extendHead_extendHead]
  rfl

/-- A switch to where one is writes nothing. -/
theorem switchTo_scope (draft : Draft) : draft.switchTo draft.scope = (draft, 0) := by
  rw [switchTo_eq (parts_self draft.scope)]
  simp [switching, closings, spacing, openings, Sections.extendHead]

end Draft

/-! ## What stays open -/

/-- What lies outside of the namespaces that an entry replays in stays open. -/
theorem Entry.replay_inside {entry : Entry} {scope next : List String} (outer : List String)
    (replayed : entry.replay scope = some next) :
    entry.replay (outer ++ scope) = some (outer ++ next) := by
  cases entry with
  | opening segment =>
      obtain rfl : scope ++ [segment] = next := Option.some.inj replayed
      rw [Entry.replay, List.append_assoc]
  | closing =>
      by_cases none : scope.isEmpty = true
      · simp [Entry.replay, none] at replayed
      · have nonempty : scope ≠ [] := by simpa using none
        obtain rfl : scope.dropLast = next := by simpa [Entry.replay, none] using replayed
        simp [Entry.replay, nonempty, List.dropLast_append_of_ne_nil]
  | blank => exact congrArg (Option.map (outer ++ ·)) replayed
  | block content => exact congrArg (Option.map (outer ++ ·)) replayed
  | flush => exact congrArg (Option.map (outer ++ ·)) replayed

/-- The same for a journal. -/
theorem openAfter_inside {journal : List Entry} {scope final : List String} (outer : List String)
    (replayed : openAfter scope journal = some final) :
    openAfter (outer ++ scope) journal = some (outer ++ final) := by
  induction journal generalizing scope with
  | nil => exact congrArg (Option.map (outer ++ ·)) replayed
  | cons entry rest ih =>
      obtain ⟨middle, stepped, later⟩ := openAfter_cons_iff.mp replayed
      exact openAfter_cons_iff.mpr ⟨outer ++ middle, Entry.replay_inside outer stepped, ih later⟩

theorem openAfter_spacing (scope : List String) (wanted : Prop) [Decidable wanted] :
    openAfter scope ((spacing wanted).map Piece.entry) = some scope := by
  unfold spacing
  split <;> rfl

/-- The lines of a switch close all of what is left, and open all of what is wanted. -/
theorem openAfter_switching (depth : Nat) (left wanted : List String) :
    openAfter left ((switching depth left wanted).map Piece.entry) = some wanted := by
  have closed : openAfter left (List.replicate left.length .closing) = some [] := by
    rw [openAfter_closings left (Nat.le_refl _), Nat.sub_self, List.take_zero]
  rw [switching, List.map_append, List.map_append, map_entry_closings, map_entry_openings,
    List.append_assoc, openAfter_append closed, openAfter_append (openAfter_spacing _ _),
    openAfter_openings, List.nil_append]

/-- Up to any line of a switch, the common prefix is open. -/
theorem exists_openAfter_switching {depth : Nat} {left wanted : List String} {front : List Piece}
    (begins : front <+: switching depth left wanted) (shared : List String) :
    ∃ inner, openAfter (shared ++ left) (front.map Piece.entry) = some (shared ++ inner) := by
  obtain ⟨back, whole⟩ := begins
  have replayed := openAfter_switching depth left wanted
  rw [← whole, List.map_append, openAfter, List.foldlM_append] at replayed
  obtain ⟨inner, first, -⟩ := Option.bind_eq_some_iff.mp replayed
  exact ⟨inner, openAfter_inside shared first⟩

/-- Opening a namespace is minimal.  Of the open segments only those behind the longest common
prefix are closed, and only those segments of the path that are missing are opened; the answer
counts these lines, the depth of the head follows the length of the path, and nothing else changes.
The common prefix is open at every line, and opening the same namespace again writes nothing. -/
theorem Draft.openNamespace_minimal (draft : Draft) (path : NamespacePath)
    (deep : draft.scope.length ≤ draft.sections.head.depth) (named : path.segments ≠ [])
    (identified : ∀ segment ∈ path.segments, isIdentifier segment = true) :
    ∃ shared left wanted, Parts draft.scope path.segments shared left wanted ∧
      let depth := draft.sections.head.depth
      let lines := switching depth left wanted
      let head : Pending :=
        ⟨draft.sections.head.text ++ piecesText draft.sections.indentUnit lines,
          depth - left.length + wanted.length⟩
      let next : Draft := { sections := { draft.sections with head }, scope := path.segments }
      draft.openNamespace path = .ok (next, left.length + wanted.length) ∧
      head.depth + draft.scope.length = depth + path.segments.length ∧
      (∀ front, front <+: lines → ∃ inner,
        openAfter draft.scope (front.map Piece.entry) = some (shared ++ inner)) ∧
      next.openNamespace path = .ok (next, 0) := by
  have parts := parts_commonDepth draft.scope path.segments
  revert parts
  generalize draft.scope.take (commonDepth draft.scope path.segments) = shared
  generalize draft.scope.drop (commonDepth draft.scope path.segments) = left
  generalize path.segments.drop (commonDepth draft.scope path.segments) = wanted
  intro parts
  have opens (start : Draft) : start.openNamespace path = .ok (start.switchTo path.segments) := by
    have notRoot : path.isRoot = false := by simpa [NamespacePath.isRoot] using named
    rw [openNamespace_eq_ok_iff]
    exact ⟨checkIdentifiers_eq_ok_iff.mpr identified, by rw [notRoot]; rfl⟩
  refine ⟨shared, left, wanted, parts, ?_, ?_, ?_, ?_⟩
  · rw [opens, switchTo_eq parts]
    rfl
  · have scope := congrArg List.length parts.scope_eq
    have segments := congrArg List.length parts.segments_eq
    rw [List.length_append] at scope segments
    dsimp only
    omega
  · intro front begins
    rw [parts.scope_eq]
    exact exists_openAfter_switching begins shared
  · rw [opens]
    exact congrArg Except.ok (switchTo_scope _)

/-- A draft with three open namespaces in a head that is indented once more. -/
def indentedDraft : Draft where
  sections := { indentUnit := "  ", head := ⟨"", 4⟩, classDecls := ⟨"struct __A;\n", 0⟩ }
  scope := ["a", "b", "c"]

/-- Two namespaces are closed and one is opened, at the depths that the head has. -/
theorem indentedDraft_switches :
    ∃ next, indentedDraft.openNamespace ⟨["a", "x"]⟩ = .ok (next, 3) ∧
      next.sections.head = ⟨"      \x7d\n    \x7d\n\n    namespace x \x7b\n", 3⟩ ∧
      next.sections.classDecls = indentedDraft.sections.classDecls ∧
      next.openNamespace ⟨["a", "x"]⟩ = .ok (next, 0) := by
  obtain ⟨shared, left, wanted, parts, opens, -, -, again⟩ :=
    indentedDraft.openNamespace_minimal ⟨["a", "x"]⟩ (by decide) (by decide) (by decide +kernel)
  have depth : commonDepth ["a", "b", "c"] ["a", "x"] = 1 := by decide
  have common := parts.commonDepth_eq.symm.trans depth
  obtain ⟨first, rfl⟩ := List.length_eq_one_iff.mp common
  obtain ⟨rfl, rfl⟩ : "a" = first ∧ ["b", "c"] = left := List.cons.inj parts.scope_eq
  obtain ⟨-, rfl⟩ : "a" = "a" ∧ ["x"] = wanted := List.cons.inj parts.segments_eq
  exact ⟨_, opens, by decide +kernel, rfl, again⟩

end VtableHeader
