import VtableHeader.Proofs.Emission
import VtableHeader.Proofs.WrittenText

/-!
# Placement of classes in a header

The header of a unit is its preamble followed by pieces.  All forward declarations come
first, then all bodies, then all vtables; within each of the three, classes stand by
namespace.  Every class has each of its blocks once, the blocks of one namespace stand
together, and replaying the namespace lines puts each block inside the namespaces of its
class and leaves none open at the end.
-/

namespace VtableHeader

open Generator (groups byNamespace groupMembers_groups)

/-- The text before all pieces: the guard, the runtime header, and its namespace if it has
one. -/
def preambleText (options : Options) : String :=
  "#pragma once\n\n" ++ ("#include \"" ++ options.runtimeHeader ++ "\"\n\n") ++
    if options.runtimeNamespace.isEmpty then ""
    else "using namespace " ++ "::".intercalate options.runtimeNamespace ++ ";\n\n"

/-- The pieces of a whole unit: three passes over its groups, and the lines that close what
the last one leaves open. -/
def unitPieces (classes : List Class) (slots : Class → List Slot) : List Piece :=
  let first := scopeAfter [] (groups classes)
  let second := scopeAfter first (groups classes)
  let third := scopeAfter second (groups classes)
  passPieces .forward [] (groups classes) ++ passPieces .body first (groups classes) ++
    passPieces (fun decl => .vtable decl (slots decl)) second (groups classes) ++
    closings third.length third.length

/-- Pieces in which every class of a unit has its place. -/
structure Arranged (classes : List Class) (slots : Class → List Slot) (pieces : List Piece) :
    Prop where
  /-- All forward declarations, then all bodies, then all vtables. -/
  passes : blocksOf pieces =
    (byNamespace classes).map .forward ++ (byNamespace classes).map .body ++
      (byNamespace classes).map fun decl => .vtable decl (slots decl)
  /-- Every class has one block of each kind. -/
  once : ∀ decl ∈ classes, (blocksOf pieces).filter (·.decl = decl) =
    [.forward decl, .body decl, .vtable decl (slots decl)]
  /-- Nothing stands between the blocks of one namespace in one pass. -/
  together : ∀ path,
    ∀ block ∈ [Block.forward, Block.body, fun decl => Block.vtable decl (slots decl)],
      (classes.filter (·.path = path)).map (fun decl => Piece.block (block decl)) <:+: pieces
  /-- A block stands inside the namespaces of its class. -/
  inside : ∀ before block after, pieces = before ++ .block block :: after →
    replayAll [] before = some block.decl.path.segments
  /-- Namespace lines match, and no namespace is left open. -/
  closed : replayAll [] pieces = some []

section Passes

variable {groups : List (NamespacePath × List Class)} {block : Class → Block}

theorem blocksOf_passPieces (scope : List String) :
    blocksOf (passPieces block scope groups) = (groupMembers groups).map block := by
  induction groups generalizing scope with
  | nil => rfl
  | cons group rest ih =>
      rcases group with ⟨path, classes⟩
      simp only [passPieces, blocksOf_append, blocksOf_crossing, blocksOf_map_block, ih,
        List.nil_append, groupMembers, List.flatMap_cons, List.map_append]

theorem replayAll_blocks {path : NamespacePath} {classes : List Class}
    (owns : ∀ decl, (block decl).decl = decl) (inside : ∀ decl ∈ classes, decl.path = path) :
    replayAll path.segments ((classes.map block).map .block) = some path.segments := by
  induction classes with
  | nil => rfl
  | cons decl rest ih =>
      rcases List.forall_mem_cons.mp inside with ⟨here, others⟩
      have step : Piece.replay path.segments (.block (block decl)) = some path.segments := by
        simp [Piece.replay, owns, here]
      have tail := ih others
      unfold replayAll at tail ⊢
      rw [List.map_cons, List.map_cons, List.foldlM_cons, step]
      exact tail

theorem replayAll_passPieces (scope : List String) (owns : ∀ decl, (block decl).decl = decl)
    (inside : ∀ group ∈ groups, ∀ decl ∈ group.2, decl.path = group.1) :
    replayAll scope (passPieces block scope groups) = some (scopeAfter scope groups) := by
  induction groups generalizing scope with
  | nil => rfl
  | cons group rest ih =>
      rcases group with ⟨path, classes⟩
      rcases List.forall_mem_cons.mp inside with ⟨here, others⟩
      rw [passPieces, List.append_assoc, replayAll_append (replayAll_crossing _ _),
        replayAll_append (replayAll_blocks owns here), ih _ others, scopeAfter]

theorem infix_passPieces {group : NamespacePath × List Class} (member : group ∈ groups)
    (scope : List String) :
    (group.2.map block).map .block <:+: passPieces block scope groups := by
  induction groups generalizing scope with
  | nil => simp at member
  | cons first rest ih =>
      rcases first with ⟨path, classes⟩
      rw [passPieces]
      rcases List.mem_cons.mp member with rfl | later
      · exact ⟨crossing scope path.segments, passPieces block path.segments rest, rfl⟩
      · exact (ih later path.segments).trans (List.suffix_append _ _).isInfix

end Passes

/-- A block that is replayed stands inside the namespaces of its class. -/
theorem replayAll_before_block {scope final : List String} {before after : List Piece}
    {block : Block}
    (replayed : replayAll scope (before ++ .block block :: after) = some final) :
    replayAll scope before = some block.decl.path.segments := by
  unfold replayAll at replayed ⊢
  rw [List.foldlM_append] at replayed
  rcases Option.bind_eq_some_iff.mp replayed with ⟨middle, reached, rest⟩
  rw [List.foldlM_cons] at rest
  rcases Option.bind_eq_some_iff.mp rest with ⟨_, entered, _⟩
  by_cases same : block.decl.path.segments = middle
  · rw [reached, same]
  · simp [Piece.replay, same] at entered

section Unit

variable {classes : List Class} (slots : Class → List Slot)

theorem blocksOf_unitPieces :
    blocksOf (unitPieces classes slots) =
      (byNamespace classes).map .forward ++ (byNamespace classes).map .body ++
        (byNamespace classes).map fun decl => .vtable decl (slots decl) := by
  simp only [unitPieces, blocksOf_append, blocksOf_passPieces, blocksOf_closings,
    groupMembers_groups, List.append_nil]

theorem replayAll_unitPieces : replayAll [] (unitPieces classes slots) = some [] := by
  have inside : ∀ group ∈ groups classes, ∀ decl ∈ group.2, decl.path = group.1 :=
    fun group member decl inGroup => Generator.path_eq_of_mem_group member inGroup
  simp only [unitPieces, List.append_assoc]
  rw [replayAll_append (replayAll_passPieces _ (fun _ => rfl) inside),
    replayAll_append (replayAll_passPieces _ (fun _ => rfl) inside),
    replayAll_append (replayAll_passPieces _ (fun _ => rfl) inside),
    replayAll_closings _ (Nat.le_refl _), Nat.sub_self, List.take_zero]

/-- Of blocks made for each class once, one belongs to a given class. -/
theorem filter_map_block {block : Class → Block} (owns : ∀ decl, (block decl).decl = decl)
    {decl : Class} (distinct : classes.Nodup) (member : decl ∈ classes) :
    (classes.map block).filter (·.decl = decl) = [block decl] := by
  have only : classes.filter (· = decl) = [decl] := by
    rw [List.filter_eq, List.count_eq_one_of_mem distinct member]
    rfl
  rw [List.filter_map, Function.comp_def]
  simp only [owns, only, List.map_singleton]

theorem infix_unitPieces {block : Class → Block} {group : NamespacePath × List Class}
    (member : group ∈ groups classes)
    (kind : block ∈ [Block.forward, Block.body, fun decl => Block.vtable decl (slots decl)]) :
    (group.2.map block).map .block <:+: unitPieces classes slots := by
  let first := scopeAfter [] (groups classes)
  let second := scopeAfter first (groups classes)
  have part : ∃ scope, passPieces block scope (groups classes) <:+: unitPieces classes slots := by
    simp only [List.mem_cons, List.not_mem_nil, or_false] at kind
    simp only [unitPieces]
    rcases kind with rfl | rfl | rfl
    · exact ⟨[], [], _, by simp only [List.nil_append, List.append_assoc]; rfl⟩
    · exact ⟨first, _, _, by simp only [List.append_assoc]; rfl⟩
    · exact ⟨second, _, _, rfl⟩
  rcases part with ⟨scope, part⟩
  exact (infix_passPieces member scope).trans part

/-- The pieces of a unit are in order. -/
theorem arranged_unitPieces (distinct : classes.Nodup) :
    Arranged classes slots (unitPieces classes slots) where
  passes := blocksOf_unitPieces slots
  once := by
    intro decl member
    have grouped := Generator.groupMembers_groups_perm classes
    rw [groupMembers_groups] at grouped
    have groupedDistinct : (byNamespace classes).Nodup := grouped.nodup_iff.mpr distinct
    have inGroups : decl ∈ byNamespace classes := grouped.mem_iff.mpr member
    rw [blocksOf_unitPieces, List.filter_append, List.filter_append,
      filter_map_block (fun _ => rfl) groupedDistinct inGroups,
      filter_map_block (fun _ => rfl) groupedDistinct inGroups,
      filter_map_block (fun _ => rfl) groupedDistinct inGroups]
    rfl
  together := by
    intro path block kind
    by_cases used : path ∈ classes.map (·.path)
    · have member : (path, classes.filter (·.path = path)) ∈ groups classes :=
        List.mem_map.mpr ⟨path, List.mem_eraseDups.mpr used, rfl⟩
      have part := infix_unitPieces slots member kind
      rwa [List.map_map] at part
    · have empty : classes.filter (·.path = path) = [] := by
        rw [List.filter_eq_nil_iff]
        intro decl member same
        exact used (List.mem_map.mpr ⟨decl, member, by simpa using same⟩)
      rw [empty]
      exact List.nil_infix
  inside := by
    intro before block after split
    apply replayAll_before_block
    rw [← split]
    exact replayAll_unitPieces slots
  closed := replayAll_unitPieces slots

end Unit

/-! ## The text of a header -/

theorem holds_start (options : Options) :
    (Generator.start options).draft.Holds options.indentUnit (preambleText options) .vtables := by
  have nothing : ({ indentUnit := options.indentUnit } : Sections).Holds options.indentUnit "" 0
      .head := ⟨rfl, rfl, ⟨rfl, rfl⟩, rfl, rfl, rfl⟩
  have guarded := (nothing.paragraph "#pragma once").paragraph
    ("#include \"" ++ options.runtimeHeader ++ "\"")
  change (Generator.preamble options { indentUnit := options.indentUnit }).Holds
    options.indentUnit (preambleText options) 0 .vtables
  unfold Generator.preamble preambleText
  split
  · simpa [String.append_assoc] using guarded.to_vtables
  · have named := guarded.paragraph
      ("using namespace " ++ "::".intercalate options.runtimeNamespace ++ ";")
    simpa [String.append_assoc] using named.to_vtables

/-- The text after all passes is the preamble and the pieces of the unit. -/
theorem finish_emittedDraft (classes : List Class) (slots : Class → List Slot)
    (options : Options) :
    { Generator.start options with
      draft := Generator.emittedDraft classes slots (Generator.start options).draft :
        Generator }.finish =
      preambleText options ++ piecesText options.indentUnit (unitPieces classes slots) := by
  have classDecls : Section.classDecls ≠ .head := by simp
  have vtables : Section.vtables ≠ .head := by simp
  rcases (holds_start options).writeGroups classDecls .forward (groups classes) with
    ⟨declared, firstScope⟩
  rcases declared.writeGroups classDecls .body (groups classes) with ⟨bodied, secondScope⟩
  rcases bodied.writeGroups vtables (fun decl => .vtable decl (slots decl)) (groups classes) with
    ⟨finished, thirdScope⟩
  have whole := finished.finish
  rw [thirdScope, secondScope, firstScope] at whole
  simp only [unitPieces, piecesText_append, String.append_assoc] at whole ⊢
  exact whole

/-- A header read back as the pieces behind its preamble and the slots in its vtables. -/
structure ClassUnit.Displays (unit : ClassUnit) (options : Options) (text : String)
    (pieces : List Piece) (slots : Class → List Slot) : Prop where
  written : text = preambleText options ++ piecesText options.indentUnit pieces
  vtables : unit.vtables options =
    .ok ((byNamespace unit.classes).map fun decl => (decl, slots decl))
  arranged : Arranged unit.classes slots pieces

/-- What is known of a unit that has a header: how its classes were linked, the slots of its
vtables, and its text. -/
theorem ClassUnit.exists_linked_of_header {unit : ClassUnit} {options : Options} {text : String}
    (accepted : unit.header options = .ok text) :
    WellDeclared unit.classes ∧ (∀ decl ∈ unit.classes, ¬ Contested unit.classes decl) ∧
      ∃ known slots, Linked unit.classes unit.classes known ∧
        (∀ decl ∈ unit.classes, known decl = some (slots decl)) ∧
        unit.vtables options =
          .ok ((byNamespace unit.classes).map fun decl => (decl, slots decl)) ∧
        text = preambleText options ++
          piecesText options.indentUnit (unitPieces unit.classes slots) := by
  rcases header_eq_ok_iff.mp accepted with ⟨wellDeclared, uncontested, known, linked, rfl⟩
  refine ⟨wellDeclared, uncontested, known, fun decl => (known decl).getD [], linked, ?_,
    vtables_of_linked wellDeclared uncontested linked, finish_emittedDraft _ _ _⟩
  intro decl member
  rcases Option.isSome_iff_exists.mp ((linked.knows decl).mpr member) with ⟨slots, stored⟩
  simp [stored]

/-- A header is the preamble and pieces in which every class has its place. -/
theorem ClassUnit.header_arranged (unit : ClassUnit) (options : Options) {text : String}
    (accepted : unit.header options = .ok text) :
    ∃ pieces slots,
      text = preambleText options ++ piecesText options.indentUnit pieces ∧
      unit.vtables options =
        .ok ((byNamespace unit.classes).map fun decl => (decl, slots decl)) ∧
      Arranged unit.classes slots pieces := by
  rcases exists_linked_of_header accepted with ⟨wellDeclared, _, _, slots, _, _, vtables, text⟩
  exact ⟨_, slots, text, vtables, arranged_unitPieces slots wellDeclared.nodup⟩

/-- Namespaces that share an outer one, with a global class between them. -/
def nestedUnit : ClassUnit where
  classes :=
    [{ name := "A", path := ⟨["a", "b"]⟩ },
      { name := "B", base := some "a.b.A" },
      { name := "C", path := ⟨["a"]⟩, base := some "B" },
      { name := "D", path := ⟨["a", "b"]⟩, base := some "A" }]

theorem nestedUnit_arranged :
    ∃ text pieces slots, nestedUnit.header {} = .ok text ∧
      text = preambleText {} ++ piecesText (Options.indentUnit {}) pieces ∧
      Arranged nestedUnit.classes slots pieces := by
  rcases exists_eq_ok_of_toBool (nestedUnit.header {}) (by decide +kernel) with ⟨text, accepted⟩
  rcases nestedUnit.header_arranged {} accepted with ⟨pieces, slots, written, _, arranged⟩
  exact ⟨text, pieces, slots, accepted, written, arranged⟩

end VtableHeader
