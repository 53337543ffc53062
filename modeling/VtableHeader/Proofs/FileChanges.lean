import Mathlib.Logic.Relation
import VtableHeader.Proofs.Places

/-!
# Changes of a file tree

Writing a file and making a directory each put one new sight at the place that their path names, and
never where a directory stands.  A tree that only ever gets new directories has `Grown`; creating a
directory with all that is missing above it lets the tree grow at the directory and its ancestors
and nowhere else, whether it succeeds or fails on the way.
-/

namespace VtableHeader

namespace DiskPath

/-- One path is the parent of another. -/
def IsParent (path parent : String) : Prop :=
  parent? path = some parent

/-- A path names a directory above another, by as many steps as it takes. -/
def IsAncestor (path ancestor : String) : Prop :=
  Relation.TransGen IsParent path ancestor

end DiskPath

namespace FileTree

open Position

variable {before middle after tree : FileTree} {path : String}

/-! ## When operations succeed -/

theorem makeDirectory_eq_ok_iff :
    tree.makeDirectory path = .ok after ↔
      ∃ position name slash, tree.target path = .ok (.entry position name slash) ∧
        position.child? name = .ok none ∧ after = tree.put position name (.directory []) := by
  rw [makeDirectory, bind_eq_ok_iff]
  constructor
  · rintro ⟨_ | ⟨position, name, slash⟩, found, made⟩
    · cases made
    · obtain ⟨_ | node, looked, made⟩ := bind_eq_ok_iff.mp made
      · cases made
        exact ⟨position, name, slash, found, looked, rfl⟩
      · cases made
  · rintro ⟨position, name, slash, found, looked, rfl⟩
    exact ⟨_, found, bind_eq_ok_iff.mpr ⟨none, looked, rfl⟩⟩

theorem writeBytes_eq_ok_iff {contents : ByteArray} :
    tree.writeBytes path contents = .ok after ↔
      ∃ position name standing, tree.target path = .ok (.entry position name false) ∧
        position.child? name = .ok standing ∧ (∀ entries, standing ≠ some (.directory entries)) ∧
        after = tree.put position name (.file contents) := by
  rw [writeBytes, bind_eq_ok_iff]
  constructor
  · rintro ⟨_ | ⟨position, name, _ | _⟩, found, written⟩
    · cases written
    · obtain ⟨_ | _ | _, looked, written⟩ := bind_eq_ok_iff.mp written
      · cases written
        exact ⟨position, name, none, found, looked, by simp, rfl⟩
      · cases written
        exact ⟨position, name, _, found, looked, by simp, rfl⟩
      · cases written
    · cases written
  · rintro ⟨position, name, standing, found, looked, free, rfl⟩
    rcases standing with _ | _ | entries
    · exact ⟨_, found, bind_eq_ok_iff.mpr ⟨none, looked, rfl⟩⟩
    · exact ⟨_, found, bind_eq_ok_iff.mpr ⟨_, looked, rfl⟩⟩
    · exact absurd rfl (free entries)

theorem readBytes_eq_ok_iff {contents : ByteArray} :
    tree.readBytes path = .ok contents ↔
      ∃ position name, tree.target path = .ok (.entry position name false) ∧
        position.child? name = .ok (some (.file contents)) := by
  rw [readBytes, bind_eq_ok_iff]
  constructor
  · rintro ⟨_ | ⟨position, name, slash⟩, found, answered⟩
    · cases answered
    · obtain ⟨_ | _ | _, looked, answered⟩ := bind_eq_ok_iff.mp answered
      · cases answered
      · cases slash with
        | false =>
            cases answered
            exact ⟨position, name, found, looked⟩
        | true => cases answered
      · cases answered
  · rintro ⟨position, name, found, looked⟩
    exact ⟨_, found, bind_eq_ok_iff.mpr ⟨_, looked, rfl⟩⟩

/-- The trees show the same, but for one place where no directory stood. -/
structure Puts (place : List String) (sight : Sight) (before after : FileTree) : Prop where
  home : after.workingDirectory = before.workingDirectory
  free : before.sight? place ≠ some .directory
  sights : ∀ other, after.sight? other = if other = place then some sight else before.sight? other

/-- A node that is put into a directory is seen there. -/
theorem puts_put {position : Position} (reached : Reached tree.root position) (name : String)
    (node : FileNode)
    (free : ∀ entries, position.entries.lookup name ≠ some (.directory entries))
    (leaf : node.IsLeaf) :
    Puts (position.place ++ [name]) node.sight tree (tree.put position name node) := by
  have unseen : tree.sight? (position.place ++ [name]) ≠ some .directory := by
    intro seen
    obtain ⟨entries, standing⟩ := Folder.sight?_eq_directory_iff.mp seen
    exact free entries (reached.lookup name ▸ standing)
  exact ⟨rfl, unseen, Folder.sight?_putAt reached.node? unseen leaf⟩

/-- Directories stay directories. -/
theorem Puts.kept {place : List String} {sight : Sight} (puts : Puts place sight before after)
    (other : List String) (directory : before.sight? other = some .directory) :
    after.sight? other = some .directory := by
  rw [puts.sights, if_neg, directory]
  rintro rfl
  exact puts.free directory

/-- A path names the same place in trees with one working directory. -/
theorem place_congr (home : after.workingDirectory = before.workingDirectory) (path : String) :
    after.place path = before.place path := by
  simp only [place, home]

/-- A directory is made where there is nothing. -/
theorem puts_of_makeDirectory (made : tree.makeDirectory path = .ok after) :
    tree.sight? (tree.place path) = none ∧ Puts (tree.place path) .directory tree after := by
  obtain ⟨position, name, slash, found, looked, rfl⟩ := makeDirectory_eq_ok_iff.mp made
  obtain ⟨reached, here⟩ := target_reached found
  obtain ⟨-, absent⟩ := child?_eq_ok_iff.mp looked
  rw [here]
  constructor
  · rw [sight?, Folder.sight?, ← reached.lookup, absent, Option.map_none]
  · exact puts_put reached name (.directory []) (by simp [absent]) rfl

/-- A file is written where no directory stands. -/
theorem puts_of_writeBytes {contents : ByteArray}
    (written : tree.writeBytes path contents = .ok after) :
    Puts (tree.place path) (.file contents) tree after := by
  obtain ⟨position, name, standing, found, looked, free, rfl⟩ := writeBytes_eq_ok_iff.mp written
  obtain ⟨reached, here⟩ := target_reached found
  obtain ⟨-, rfl⟩ := child?_eq_ok_iff.mp looked
  rw [here]
  exact puts_put reached name (.file contents) free trivial

/-- What is written to a path is read from it. -/
theorem readBytes_of_writeBytes {contents : ByteArray}
    (written : tree.writeBytes path contents = .ok after) :
    after.readBytes path = .ok contents := by
  have puts := puts_of_writeBytes written
  obtain ⟨position, name, standing, found, looked, -, -⟩ := writeBytes_eq_ok_iff.mp written
  obtain ⟨short, -⟩ := child?_eq_ok_iff.mp looked
  -- The way to the file is still there, and the place at its end is where the file was put.
  obtain ⟨moved, leads⟩ := target_of_kept puts.home puts.kept found
  obtain ⟨reached, here⟩ := target_reached leads
  have seen : after.sight? (moved.place ++ [name]) = some (.file contents) := by
    rw [← here, place_congr puts.home, puts.sights, if_pos rfl]
  have standing : moved.entries.lookup name = some (.file contents) := by
    rw [reached.lookup]
    exact Folder.sight?_eq_file_iff.mp seen
  exact readBytes_eq_ok_iff.mpr ⟨moved, name, leads, child?_eq_ok_iff.mpr ⟨short, standing⟩⟩

/-- A place shows what it showed, or a new directory where there was nothing, and that only if one
of the given paths names it. -/
def KeptOrMade (paths : String → Prop) (before after : FileTree) (place : List String) : Prop :=
  after.sight? place = before.sight? place ∨
    before.sight? place = none ∧ after.sight? place = some .directory ∧
      ∃ path, paths path ∧ before.place path = place

/-- Nothing but directories has been added, each at one of the given paths. -/
structure Grown (paths : String → Prop) (before after : FileTree) : Prop where
  home : after.workingDirectory = before.workingDirectory
  sights : ∀ place, KeptOrMade paths before after place

variable {paths : String → Prop}

theorem grown_refl (tree : FileTree) : Grown paths tree tree :=
  ⟨rfl, fun _ => .inl rfl⟩

theorem Grown.trans (first : Grown paths before middle) (second : Grown paths middle after) :
    Grown paths before after := by
  constructor
  · exact second.home.trans first.home
  · intro place
    rcases second.sights place with same | ⟨absent, made, path, allowed, here⟩
    · rw [KeptOrMade, same]
      exact first.sights place
    · rcases first.sights place with same | ⟨-, present, -⟩
      · exact .inr ⟨same ▸ absent, made, path, allowed, place_congr first.home path ▸ here⟩
      · simp [absent] at present

theorem Grown.mono {wider : String → Prop} (grown : Grown paths before after)
    (weaken : ∀ path, paths path → wider path) : Grown wider before after := by
  constructor
  · exact grown.home
  · intro place
    rcases grown.sights place with same | ⟨absent, made, path, allowed, here⟩
    · exact .inl same
    · exact .inr ⟨absent, made, path, weaken path allowed, here⟩

/-- A new directory is growth. -/
theorem grown_of_makeDirectory (made : tree.makeDirectory path = .ok after) :
    Grown (· = path) tree after := by
  obtain ⟨absent, puts⟩ := puts_of_makeDirectory made
  constructor
  · exact puts.home
  · intro place
    rw [KeptOrMade, puts.sights]
    split
    case isTrue here => exact .inr ⟨here ▸ absent, rfl, path, rfl, here.symm⟩
    case isFalse => exact .inl rfl

/-- Whatever an action answers, it leaves a tree that has grown. -/
def Growing {α : Type} (paths : String → Prop) (action : StateM FileTree α) : Prop :=
  ∀ tree, Grown paths tree (action.run tree).2

theorem growing_pure {α : Type} (answer : α) :
    Growing paths (pure answer : StateM FileTree α) :=
  fun tree => grown_refl tree

theorem Growing.bind {α β : Type} {action : StateM FileTree α} {next : α → StateM FileTree β}
    (first : Growing paths action) (second : ∀ answer, Growing paths (next answer)) :
    Growing paths (action >>= next) :=
  fun tree => (first tree).trans (second _ _)

theorem Growing.mono {α : Type} {wider : String → Prop} {action : StateM FileTree α}
    (growing : Growing paths action) (weaken : ∀ path, paths path → wider path) :
    Growing wider action :=
  fun tree => (growing tree).mono weaken

/-- A change is kept if it succeeds. -/
theorem run_change (operation : FileTree → Except StorageError FileTree) (tree : FileTree) :
    (change operation).run tree =
      match operation tree with
      | .ok after => (.ok (), after)
      | .error error => (.error error, tree) := by
  rw [FileTree.change, StateT.run_bind, StateT.run_get, pure_bind]
  cases operation tree with
  | ok after => rfl
  | error error => rfl

/-- One directory is made, or none. -/
theorem growing_makeDirectory (path : String) :
    Growing (· = path) (Storage.makeDirectory path : StateM FileTree _) := by
  intro tree
  have ran : (Storage.makeDirectory path : StateM FileTree _).run tree = _ :=
    run_change (·.makeDirectory path) tree
  rw [ran]
  cases made : tree.makeDirectory path with
  | ok after => exact grown_of_makeDirectory made
  | error error => exact grown_refl tree

theorem growing_isDirectory (path : String) :
    Growing paths (Storage.isDirectory path : StateM FileTree _) :=
  fun tree => grown_refl tree

theorem growing_ensureDirectory (path : String) :
    Growing (· = path) (Storage.ensureDirectory path : StateM FileTree _) := by
  apply (growing_makeDirectory path).bind
  intro result
  split
  · exact growing_pure _
  · exact growing_pure _
  · apply (growing_isDirectory path).bind
    intro present
    split <;> exact growing_pure _

/-- Going up from a path, directories are made at the path and its ancestors. -/
theorem growing_createUpwards (bound : Nat) (path : String) :
    Growing (Relation.ReflTransGen DiskPath.IsParent path)
      (Storage.createUpwards bound path : StateM FileTree _) := by
  have here (path : String) : Growing (Relation.ReflTransGen DiskPath.IsParent path)
      (Storage.ensureDirectory path : StateM FileTree _) :=
    (growing_ensureDirectory path).mono fun _ same => same ▸ .refl
  induction bound generalizing path with
  | zero => exact growing_pure _
  | succ bound ih =>
      rw [Storage.createUpwards]
      split
      case isTrue => exact growing_pure _
      case isFalse =>
        apply (here path).bind
        intro result
        split
        case h_2 => exact growing_pure _
        case h_1 =>
          split
          case h_1 => exact growing_pure _
          case h_2 parent above =>
            have further : Growing (Relation.ReflTransGen DiskPath.IsParent path)
                (Storage.createUpwards bound parent : StateM FileTree _) :=
              (ih parent).mono fun _ higher => .head above higher
            apply further.bind
            intro result
            split
            · exact growing_pure _
            · exact here path

end FileTree

end VtableHeader
