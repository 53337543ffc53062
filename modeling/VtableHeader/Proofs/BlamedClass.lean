import VtableHeader.Proofs.ReportedErrors

/-!
# The class that an error blames

Every error carries a place: the dotted name of a class, or of a namespace that was being opened.
A rejected unit always has a class that breaks the rule the error stands for, and the place is the
dotted name of that class with one exception.  A segment that is no identifier is found when the
namespace is opened, before the class is looked at, and then the place is the namespace.

The rules are stated here without the class table.  What a class inherits while a unit is linked
is what its base declares, and the base of that, each looked for among the classes before it.
-/

namespace VtableHeader

open ClassTable (isDotted)

/-- The place that an error carries. -/
def GenError.place : GenError → String
  | .invalidIdentifier context _ _ | .emptyTypeName context _ => context
  | .duplicateClass className | .duplicateMember className _ | .unmarkedOverride className _
  | .bodyBeforeForward className | .baseNotEmitted className _ | .ambiguousBase className _ _
  | .danglingOverride className _ => className

/-- Errors for a segment of a namespace that is no identifier. -/
def GenError.isSegmentFault : GenError → Bool
  | .invalidIdentifier _ .namespaceSegment _ => true
  | _ => false

/-- The class `target` bears the name that `decl` gives to its base: a dotted base is the dotted
name of one class, a simple one may be borne by several, unless there is one in the own
namespace. -/
inductive BearsBase (declared : List Class) (decl : Class) (base : String) (target : Class) :
    Prop where
  | dotted (dotted : isDotted base = true) (name : target.qualifiedName = base)
  | sameNamespace (simple : isDotted base = false) (path : target.path = decl.path)
      (name : target.name = base)
  | elsewhere (simple : isDotted base = false)
      (absent : ∀ other ∈ declared, other.path = decl.path → other.name ≠ base)
      (name : target.name = base)

/-- The base of `decl` is `target` while the unit is linked, with only the classes before `decl` in
view. -/
def LinksTo (classes : List Class) (decl target : Class) : Prop :=
  ∃ before after base, classes = before ++ decl :: after ∧ decl.base = some base ∧
    Denotes classes before decl base target

/-- Some class that bases lead to declares a method of this name. -/
def Inherits (classes : List Class) (decl : Class) (name : String) : Prop :=
  ∃ ancestor, Relation.TransGen (LinksTo classes) decl ancestor ∧ ancestor.declares name = true

/-- A class of a unit breaks the rule that an error stands for. -/
inductive Violates (classes : List Class) (decl : Class) : GenError → Prop where
  | misdeclared {context : String} {error : GenError} (fault : decl.Misdeclares context error) :
      Violates classes decl error
  | repeated {className : String} (again : 2 ≤ (classes.map Class.ref).count decl.ref) :
      Violates classes decl (.duplicateClass className)
  | baseNotEmitted {className base : String} {before after : List Class}
      (split : classes = before ++ decl :: after) (named : decl.base = some base)
      (missing : ∀ earlier ∈ before, ¬ BearsBase classes decl base earlier) :
      Violates classes decl (.baseNotEmitted className base)
  | ambiguousBase {className base : String} {candidates : List String}
      (named : decl.base = some base) (contested : Contested classes decl) :
      Violates classes decl (.ambiguousBase className base candidates)
  | danglingOverride {className : String} {method : Method} (member : method ∈ decl.methods)
      (marked : method.isOverride = true) (absent : ¬ Inherits classes decl method.name) :
      Violates classes decl (.danglingOverride className method.name)
  | unmarkedOverride {className : String} {method : Method} (member : method ∈ decl.methods)
      (unmarked : method.isOverride = false) (present : Inherits classes decl method.name) :
      Violates classes decl (.unmarkedOverride className method.name)

/-- An error blames a class that breaks its rule.  Its place is the dotted name of the class, except
for a fault of a segment: then it is the namespace of the class, which is another word. -/
structure Blames (classes : List Class) (error : GenError) (decl : Class) : Prop where
  violates : Violates classes decl error
  byName : error.isSegmentFault = false → error.place = decl.qualifiedName
  byNamespace : error.isSegmentFault = true →
    error.place = decl.path.dotted ∧ decl.path.dotted ≠ decl.qualifiedName

variable {classes order done before after : List Class} {decl target : Class}
  {known : Class → Option (List Slot)} {base name : String} {error : GenError}

/-! ## What is inherited while a unit is linked -/

theorem LinksTo.unique {other : Class} (wellDeclared : WellDeclared classes)
    (links : LinksTo classes decl target) (again : LinksTo classes decl other) :
    target = other := by
  rcases links with ⟨before, after, base, split, named, denotes⟩
  rcases again with ⟨otherBefore, otherAfter, otherBase, otherSplit, otherNamed, otherDenotes⟩
  obtain rfl : base = otherBase := Option.some.inj (named.symm.trans otherNamed)
  have once : decl ∉ before ++ after :=
    (List.nodup_cons.mp (List.nodup_middle.mp (split ▸ wellDeclared.nodup))).1
  rw [List.mem_append, not_or] at once
  obtain ⟨rfl, _⟩ := (List.append_cons_inj_of_notMem once.1 once.2).mp
    (split.symm.trans otherSplit)
  have earlier : before ⊆ classes := split ▸ List.subset_append_left before _
  exact denotes.eq_of_subset wellDeclared (List.Subset.refl _) earlier otherDenotes

theorem not_inherits_of_root (rootless : decl.base = none) : ¬ Inherits classes decl name := by
  rintro ⟨ancestor, path, _⟩
  rcases Relation.TransGen.head'_iff.mp path with ⟨_, ⟨_, _, _, _, named, _⟩, _⟩
  simp [rootless] at named

/-- A class inherits what its base inherits or declares. -/
theorem LinksTo.inherits_iff (wellDeclared : WellDeclared classes)
    (links : LinksTo classes decl target) :
    Inherits classes decl name ↔ Inherits classes target name ∨ target.declares name = true := by
  constructor
  · rintro ⟨ancestor, path, declares⟩
    rcases Relation.TransGen.head'_iff.mp path with ⟨other, again, above⟩
    obtain rfl := links.unique wellDeclared again
    rcases Relation.reflTransGen_iff_eq_or_transGen.mp above with rfl | above
    · exact .inr declares
    · exact .inl ⟨ancestor, above, declares⟩
  · rintro (⟨ancestor, above, declares⟩ | declares)
    · exact ⟨ancestor, .head links above, declares⟩
    · exact ⟨target, .single links, declares⟩

/-- Slots that are computed from right ones are right. -/
theorem SlotsFrom.mem_slotNames_iff {slots : List Slot} (wellDeclared : WellDeclared classes)
    (split : classes = before ++ decl :: after)
    (earlier : ∀ target ∈ before, ∀ inherited, known target = some inherited →
      ∀ name, name ∈ slotNames inherited ↔
        Inherits classes target name ∨ target.declares name = true)
    (computed : SlotsFrom classes before known decl slots) :
    name ∈ slotNames slots ↔ Inherits classes decl name ∨ decl.declares name = true := by
  cases computed with
  | root rootless effective =>
      rcases Class.effectiveSlots_eq_ok_iff.mp effective with ⟨marked, rfl⟩
      rw [mem_slotNames_append_iff marked]
      simp [slotNames, not_inherits_of_root rootless]
  | derived named denotes stored effective =>
      rcases Class.effectiveSlots_eq_ok_iff.mp effective with ⟨marked, rfl⟩
      have links : LinksTo classes decl _ := ⟨before, after, _, split, named, denotes⟩
      rw [mem_slotNames_append_iff marked, earlier _ denotes.mem _ stored,
        links.inherits_iff wellDeclared]

/-- The slots of a linked class bear the names that it inherits or declares. -/
theorem Linked.mem_slotNames_iff (linked : Linked classes done known)
    (wellDeclared : WellDeclared classes) (initial : done <+: classes) :
    ∀ decl ∈ done, ∀ slots, known decl = some slots → ∀ name,
      name ∈ slotNames slots ↔ Inherits classes decl name ∨ decl.declares name = true := by
  induction linked with
  | nil => simp
  | @snoc done known last slots _ fresh computed ih =>
      rcases initial with ⟨after, split⟩
      have split : classes = done ++ last :: after := by simp [← split]
      have earlier := ih ⟨_, split.symm⟩
      intro decl member found stored name
      by_cases same : decl = last
      · subst same
        obtain rfl : slots = found := by simpa using stored
        exact computed.mem_slotNames_iff wellDeclared split earlier
      · rw [Function.update_of_ne same] at stored
        exact earlier decl (by simpa [same] using member) found stored name

namespace ClassTable

section Listing

variable (wellDeclared : WellDeclared classes) (same : order.Perm classes)
  (split : classes = before ++ decl :: after) (linked : Linked classes before known)

include wellDeclared same split linked

/-- The slots that a class inherits bear the names that its ancestors declare. -/
theorem mem_slotNames_inheritedSlots_iff {inherited : List Slot}
    (found : (listing order known).inheritedSlots decl = .ok inherited) :
    name ∈ slotNames inherited ↔ Inherits classes decl name := by
  have member : decl ∈ classes := by simp [split]
  have earlier : before ⊆ order := fun other otherMem =>
    same.mem_iff.mpr (by simp [split, otherMem])
  unfold inheritedSlots at found
  cases named : decl.base with
  | none =>
      obtain rfl : inherited = [] := by simpa [named, eq_comm] using found
      simp [slotNames, not_inherits_of_root named]
  | some base =>
      simp only [named] at found
      rcases (resolveBase_listing_eq_ok_iff (wellDeclared.perm same) earlier linked.knows
        (wellDeclared.checked decl member) named).mp found with ⟨target, denotes, stored⟩
      have links : LinksTo classes decl target := ⟨before, after, base, split, named,
        denotes.congr (fun _ => same.mem_iff.symm) fun _ => Iff.rfl⟩
      rw [links.inherits_iff wellDeclared,
        linked.mem_slotNames_iff wellDeclared ⟨_, split.symm⟩ target denotes.mem inherited stored]

omit linked in
/-- The first look-up of a simple base fails when no class of the own namespace has that name. -/
theorem find?_localKey_eq_none_iff (named : decl.base = some base)
    (simple : isDotted base = false) :
    (listing order known).find? (localKey decl base) = none ↔
      ∀ other ∈ classes, other.path = decl.path → other.name ≠ base := by
  have member : decl ∈ classes := by simp [split]
  have keyIff : ∀ other ∈ classes,
      (other.qualifiedName = localKey decl base ↔ other.path = decl.path ∧ other.name = base) :=
    fun other otherMem => qualifiedName_eq_localKey_iff (wellDeclared.checked decl member)
      (wellDeclared.checked other otherMem) named simple
  rw [find?_listing_eq_none_iff]
  constructor
  · intro absent other otherMem path name
    exact absent other (same.mem_iff.mpr otherMem) ((keyIff other otherMem).mpr ⟨path, name⟩)
  · intro absent other otherMem found
    have otherMem := same.mem_iff.mp otherMem
    rcases (keyIff other otherMem).mp found with ⟨path, name⟩
    exact absent other otherMem path name

/-- A base that is reported as missing has no bearer among the earlier classes. -/
theorem not_bearsBase_of_unresolved (named : decl.base = some base)
    (unlinked : ∀ entry, (listing order known).find? (localKey decl base) = some entry →
      entry.slots = none)
    (unborne : (listing order known).find? (localKey decl base) = none →
      isDotted base = true ∨ (listing order known).candidates base = []) :
    ∀ earlier ∈ before, ¬ BearsBase classes decl base earlier := by
  intro earlier earlierMem bears
  have inClasses : earlier ∈ classes := by simp [split, earlierMem]
  have inOrder : earlier ∈ order := same.mem_iff.mpr inClasses
  have hasSlots : (known earlier).isSome = true := (linked.knows earlier).mpr earlierMem
  -- A class that is found in the first place has slots, since it stands before `decl`.
  have notFirst : earlier.qualifiedName ≠ localKey decl base := by
    intro found
    have stored : known earlier = none :=
      unlinked _ (found ▸ find?_listing (wellDeclared.perm same) inOrder)
    simp [stored] at hasSlots
  cases bears with
  | dotted dotted name => exact notFirst (name.trans (localKey_of_dotted dotted).symm)
  | sameNamespace simple path name =>
      apply notFirst
      rw [localKey_of_simple simple, Class.qualifiedName, Class.qualifiedName, path, name]
  | elsewhere simple absent name =>
      have nowhere : (listing order known).find? (localKey decl base) = none :=
        (find?_localKey_eq_none_iff wellDeclared same split named simple).mpr absent
      have borne : earlier ∈ bearers order known base := by
        simp [bearers, inOrder, name, hasSlots]
      rcases unborne nowhere with dotted | none
      · simp [simple] at dotted
      · rw [candidates_listing, List.map_eq_nil_iff] at none
        simp [none] at borne

omit linked in
/-- A base with several candidates is contested. -/
theorem contested_of_unresolved (named : decl.base = some base) (simple : isDotted base = false)
    (nowhere : (listing order known).find? (localKey decl base) = none)
    (several : 2 ≤ ((listing order known).candidates base).length) : Contested classes decl := by
  have distinct : (bearers order known base).Nodup := (wellDeclared.perm same).nodup.filter _
  have bears : ∀ other ∈ bearers order known base, other ∈ classes ∧ other.name = base := by
    intro other otherMem
    rcases List.mem_filter.mp otherMem with ⟨inOrder, borne⟩
    exact ⟨same.mem_iff.mp inOrder, by simpa using (Bool.and_eq_true_iff.mp borne).1⟩
  rw [candidates_listing, List.length_map] at several
  rcases listed : bearers order known base with _ | ⟨first, _ | ⟨second, rest⟩⟩
  · simp [listed] at several
  · simp [listed] at several
  · have differ : first ≠ second := by
      rw [listed] at distinct
      exact fun equal => (List.nodup_cons.mp distinct).1 (by simp [equal])
    rcases bears first (by simp [listed]) with ⟨firstMem, firstName⟩
    rcases bears second (by simp [listed]) with ⟨secondMem, secondName⟩
    exact ⟨base, named, simple,
      (find?_localKey_eq_none_iff wellDeclared same split named simple).mp nowhere,
      first, firstMem, second, secondMem, firstName, secondName, differ⟩

/-- A class that cannot be linked is the one to blame. -/
theorem LinkFault.blames (fault : (listing order known).LinkFault decl error) :
    Blames classes error decl := by
  cases fault with
  | base named unresolved =>
      rcases cases_of_resolveBase_eq_error unresolved with
        ⟨rfl, unlinked, unborne⟩ | ⟨rfl, nowhere, simple, several⟩
      · have missing := not_bearsBase_of_unresolved wellDeclared same split linked named unlinked
          unborne
        exact ⟨.baseNotEmitted split named missing, fun _ => rfl, nofun⟩
      · have contested := contested_of_unresolved wellDeclared same split named simple nowhere
          several
        exact ⟨.ambiguousBase named contested, fun _ => rfl, nofun⟩
  | dangling inherits methods _ marked absent =>
      rw [mem_slotNames_inheritedSlots_iff wellDeclared same split linked inherits] at absent
      exact ⟨.danglingOverride (by simp [methods]) marked absent, fun _ => rfl, nofun⟩
  | unmarked inherits methods _ unmarked present =>
      rw [mem_slotNames_inheritedSlots_iff wellDeclared same split linked inherits] at present
      exact ⟨.unmarkedOverride (by simp [methods]) unmarked present, fun _ => rfl, nofun⟩

end Listing

end ClassTable

theorem Class.Misdeclares.place_eq {context : String} (fault : decl.Misdeclares context error) :
    error.place = context := by
  cases fault <;> rfl

/-- The namespace of a class is not its dotted name. -/
theorem Class.dotted_ne_qualifiedName {segment : String} (member : segment ∈ decl.path.segments) :
    decl.path.dotted ≠ decl.qualifiedName := by
  have inside : decl.path.isRoot = false := by
    cases global : decl.path.isRoot with
    | false => rfl
    | true => simp [NamespacePath.isRoot_iff.mp global, NamespacePath.root] at member
  intro same
  have length : decl.path.dotted.length =
      decl.path.dotted.length + ".".length + decl.name.length := by
    conv_lhs => rw [same]
    simp [qualifiedName, inside]
  have dot : ".".length = 1 := rfl
  omega

/-- A checked path leaves no segment to complain about. -/
theorem Class.Misdeclares.not_isSegmentFault {context : String}
    (fault : decl.Misdeclares context error) (entered : decl.path.check = .ok ()) :
    error.isSegmentFault = false := by
  cases fault with
  | namespaceSegment member malformed =>
      have identifier := checkIdentifiers_eq_ok_iff.mp entered _ member
      simp [identifier] at malformed
  | _ => rfl

/-- A fault that is found while classes are declared lies in one of them. -/
theorem DeclarationFault.exists_blames (fault : DeclarationFault classes error) :
    ∃ decl ∈ classes, Blames classes error decl := by
  cases fault with
  | @refusedNamespace decl _ member refused =>
      rcases exists_of_checkIdentifiers_eq_error refused with ⟨segment, inside, malformed, rfl⟩
      exact ⟨decl, member, .misdeclared (.namespaceSegment inside malformed), nofun,
        fun _ => ⟨rfl, Class.dotted_ne_qualifiedName inside⟩⟩
  | @refusedClass decl _ member entered refused =>
      have misdeclared := Class.misdeclares_of_check_eq_error refused
      have elsewhere := misdeclared.not_isSegmentFault entered
      exact ⟨decl, member, .misdeclared misdeclared, fun _ => misdeclared.place_eq,
        fun segment => by simp [elsewhere] at segment⟩
  | @repeatedClass decl member again =>
      exact ⟨decl, member, .repeated again, fun _ => rfl, nofun⟩

/-- Every error blames a class of the unit. -/
theorem ClassUnit.blamed_class (unit : ClassUnit) (options : Options) {error : GenError}
    (rejected : unit.header options = .error error) :
    ∃ decl ∈ unit.classes, Blames unit.classes error decl := by
  have same := Generator.byNamespace_perm unit.classes
  cases reported_of_header rejected with
  | declaring _ fault => exact fault.exists_blames
  | linking wellDeclared fault =>
      rcases fault with ⟨before, decl, after, known, split, linked, fault⟩
      exact ⟨decl, by simp [split],
        ClassTable.LinkFault.blames wellDeclared same split linked fault⟩
  | contested _ _ fault =>
      rcases fault with ⟨before, decl, after, base, split, _, contested, named, rfl⟩
      exact ⟨decl, same.subset (by simp [split]), .ambiguousBase named contested, fun _ => rfl,
        nofun⟩

/-- `w.C` replaces a method of `x.A` without a mark.  Between them stands `z.B`, whose base becomes
contested by the later `y.A`. -/
def silentUnit : ClassUnit where
  classes :=
    [{ name := "A", path := ⟨["x"]⟩, methods := [{ returnType := "int", name := "size" }] },
      { name := "B", path := ⟨["z"]⟩, base := some "A" },
      { name := "C", path := ⟨["w"]⟩, base := some "z.B",
        methods := [{ returnType := "int", name := "size" }] },
      { name := "A", path := ⟨["y"]⟩ }]

theorem silentUnit_blames :
    silentUnit.header {} = .error (.unmarkedOverride "w.C" "size") ∧
      ∃ decl ∈ silentUnit.classes, decl.qualifiedName = "w.C" ∧
        Violates silentUnit.classes decl (.unmarkedOverride "w.C" "size") := by
  have rejected : silentUnit.header {} = .error (.unmarkedOverride "w.C" "size") := by
    decide +kernel
  rcases silentUnit.blamed_class {} rejected with ⟨decl, member, blames⟩
  exact ⟨rejected, decl, member, (blames.byName rfl).symm, blames.violates⟩

/-- A class in a namespace that cannot be opened. -/
def hyphenatedUnit : ClassUnit where
  classes := [{ name := "A", path := ⟨["a-b"]⟩ }]

/-- The error names the namespace and no class. -/
theorem hyphenatedUnit_names_no_class :
    hyphenatedUnit.header {} = .error (.invalidIdentifier "a-b" .namespaceSegment "a-b") ∧
      ∀ decl ∈ hyphenatedUnit.classes,
        (GenError.invalidIdentifier "a-b" .namespaceSegment "a-b").place ≠ decl.qualifiedName := by
  decide +kernel

end VtableHeader
