import VtableHeader.FileTree
import VtableHeader.Proofs.CheckedClass

/-!
# Places of a file tree

A look at a place shows nothing, a directory, or a file with its contents.  This is all that can be
observed of a tree, and every change puts one new sight at one place.

The place of a path is read off its text: nothing in a tree leads elsewhere.  What the tree decides
is only whether a walk arrives, and that depends on what is a directory in it.  So a path that leads
somewhere still leads there after files and directories have been added.
-/

namespace VtableHeader

/-- What a look at a place shows. -/
inductive Sight where
  | directory
  | file (contents : ByteArray)

/-- What can be seen of a node. -/
def FileNode.sight : FileNode → Sight
  | .file contents => .file contents
  | .directory _ => .directory

/-- Whether a node holds nothing further. -/
def FileNode.IsLeaf : FileNode → Prop
  | .file _ => True
  | .directory entries => entries = []

namespace Folder

/-- What stands at a place below the folder, as far as it can be seen. -/
def sight? (folder : Folder) (place : List String) : Option Sight :=
  (folder.node? place).map FileNode.sight

/-- A directory is seen exactly where there is one. -/
theorem sight?_eq_directory_iff {folder : Folder} {place : List String} :
    folder.sight? place = some .directory ↔
      ∃ entries, folder.node? place = some (.directory entries) := by
  unfold sight?
  rcases folder.node? place with _ | ⟨_ | _⟩ <;> simp [FileNode.sight]

/-- A file is seen exactly where there is one. -/
theorem sight?_eq_file_iff {folder : Folder} {place : List String} {contents : ByteArray} :
    folder.sight? place = some (.file contents) ↔ folder.node? place = some (.file contents) := by
  unfold sight?
  rcases folder.node? place with _ | ⟨_ | _⟩ <;> simp [FileNode.sight]

/-- One name further down from a directory. -/
theorem node?_concat {folder entries : Folder} {place : List String} (name : String)
    (found : folder.node? place = some (.directory entries)) :
    folder.node? (place ++ [name]) = entries.lookup name := by
  induction place generalizing folder with
  | nil =>
      obtain rfl : folder = entries := by simpa [node?] using found
      simp only [List.nil_append, node?]
      rcases folder.lookup name with _ | ⟨_ | _⟩ <;> rfl
  | cons step place ih =>
      simp only [List.cons_append, node?] at found ⊢
      split at found
      case h_1 => simp at found
      case h_2 below _ => exact ih found
      case h_3 => grind

/-- Below a name that stands for a leaf, or for nothing, there is nothing. -/
theorem node?_cons_cons_of_leaf {folder : Folder} {name : String}
    (leaf : ∀ node, folder.lookup name = some node → node.IsLeaf) (next : String)
    (rest : List String) : folder.node? (name :: next :: rest) = none := by
  simp only [node?]
  split
  case h_1 => rfl
  case h_2 entries found =>
      obtain rfl : entries = [] := leaf _ found
      rfl
  case h_3 => rfl

/-- A node that is put where no directory stands is seen there, and nothing else changes. -/
theorem sight?_putAt {folder entries : Folder} {place : List String} {name : String}
    {node : FileNode} (found : folder.node? place = some (.directory entries))
    (free : folder.sight? (place ++ [name]) ≠ some .directory) (leaf : node.IsLeaf)
    (other : List String) :
    (folder.putAt name node place).sight? other =
      if other = place ++ [name] then some node.sight else folder.sight? other := by
  induction place generalizing folder other with
  | nil =>
      rw [sight?, putAt]
      rcases other with _ | ⟨head, _ | ⟨next, rest⟩⟩
      · simp [sight?, node?, FileNode.sight]
      · by_cases same : head = name
        · subst same
          simp only [node?, lookup_put_self, List.nil_append, if_pos]
          cases node <;> rfl
        · simp [sight?, node?, lookup_put_of_ne folder node same, same]
      · by_cases same : head = name
        · subst same
          -- Neither before nor after is there a directory with anything in it under the name.
          have before : folder.node? (head :: next :: rest) = none := by
            apply node?_cons_cons_of_leaf
            intro old standing
            cases old with
            | file contents => trivial
            | directory below => simp [sight?, node?, standing, FileNode.sight] at free
          have after : (folder.put head node).node? (head :: next :: rest) = none :=
            node?_cons_cons_of_leaf (by simpa using leaf) next rest
          simp [sight?, before, after]
        · simp [sight?, node?, lookup_put_of_ne folder node same]
  | cons step place ih =>
      simp only [node?] at found
      split at found
      case h_1 => simp at found
      case h_3 => grind
      case h_2 below standing =>
        have inside := ih found (by simpa [sight?, node?, standing] using free)
        rw [sight?, putAt, standing]
        rcases other with _ | ⟨head, rest⟩
        · simp [sight?, node?, FileNode.sight]
        · by_cases same : head = step
          · subst same
            simpa [sight?, node?, standing] using inside rest
          · simp [sight?, node?, lookup_put_of_ne folder _ same, same]

end Folder

/-! ## The place of a path -/

/-- The place after one more piece of a path. -/
def DiskPath.descend (place : List String) (piece : String) : List String :=
  if isSilent piece then place
  else if piece == ".." then place.dropLast
  else place ++ [piece]

/-- Empty pieces at the end of a path lead no further. -/
theorem DiskPath.foldl_descend_dropWhile (start pieces : List String) :
    (pieces.reverse.dropWhile (· == "")).reverse.foldl descend start =
      pieces.foldl descend start := by
  rw [List.foldl_reverse, ← List.foldr_reverse]
  induction pieces.reverse with
  | nil => rfl
  | cons last pieces ih =>
      by_cases empty : last = ""
      · subst empty
        simpa [descend, isSilent] using ih
      · simp [empty]

namespace FileTree

/-- What a look at a place shows. -/
def sight? (tree : FileTree) (place : List String) : Option Sight :=
  tree.root.sight? place

/-- The place that a path names, whether or not the way there exists. -/
def place (tree : FileTree) (path : String) : List String :=
  (DiskPath.pieces path).foldl DiskPath.descend
    (if DiskPath.isAbsolute path then [] else tree.workingDirectory.foldl DiskPath.descend [])

namespace Position

/-- The directories that a walk can reach from the root. -/
inductive Reached (root : Folder) : Position → Prop
  | start : Reached root { entries := root }
  | down {position : Position} {name : String} {entries : Folder} :
      Reached root position → position.entries.lookup name = some (.directory entries) →
      Reached root { entries, above := (name, position.entries) :: position.above }

variable {root : Folder} {position : Position}

theorem place_down (entries : Folder) (name : String) :
    place { entries, above := (name, position.entries) :: position.above } =
      position.place ++ [name] := by
  simp [place]

/-- A walk arrives at what stands at its place. -/
theorem Reached.node? (reached : Reached root position) :
    root.node? position.place = some (.directory position.entries) := by
  induction reached with
  | start => rfl
  | down _ found ih => rw [place_down, Folder.node?_concat _ ih, found]

/-- What a directory holds under a name stands one step further. -/
theorem Reached.lookup (reached : Reached root position) (name : String) :
    position.entries.lookup name = root.node? (position.place ++ [name]) :=
  (Folder.node?_concat name reached.node?).symm

theorem Reached.up (reached : Reached root position) : Reached root position.up := by
  cases reached with
  | start => exact .start
  | down above _ => exact above

theorem place_up (position : Position) : position.up.place = position.place.dropLast := by
  rcases position with ⟨entries, _ | ⟨_, above⟩⟩ <;> simp [Position.up, place]

/-- What a directory holds under a name is told unless the name is too long. -/
theorem child?_eq_ok_iff {name : String} {node : Option FileNode} :
    position.child? name = .ok node ↔
      name.utf8ByteSize ≤ DiskPath.maxPieceSize ∧ position.entries.lookup name = node := by
  unfold child?
  split
  case isTrue long => simp; omega
  case isFalse short => simp; omega

/-- One piece of a path leads nowhere, upwards, or into a directory of its name. -/
theorem step_eq_ok_iff {piece : String} {next : Position} :
    position.step piece = .ok next ↔
      DiskPath.isSilent piece ∧ next = position ∨
      ¬DiskPath.isSilent piece ∧ piece = ".." ∧ next = position.up ∨
      ¬DiskPath.isSilent piece ∧ piece ≠ ".." ∧
        piece.utf8ByteSize ≤ DiskPath.maxPieceSize ∧
        ∃ entries, position.entries.lookup piece = some (.directory entries) ∧
          next = { entries, above := (piece, position.entries) :: position.above } := by
  unfold step
  by_cases silent : DiskPath.isSilent piece
  · simp [silent, eq_comm]
  by_cases upwards : piece = ".."
  · subst upwards
    simp [silent, eq_comm]
  simp only [silent, upwards, beq_iff_eq, if_false, Bool.false_eq_true, false_and, not_false_iff,
    true_and, false_or, ne_eq]
  split
  case h_1 entries found =>
      obtain ⟨short, standing⟩ := child?_eq_ok_iff.mp found
      simp [short, standing, eq_comm]
  case h_2 contents found => simp [(child?_eq_ok_iff.mp found).2]
  case h_3 found => simp [(child?_eq_ok_iff.mp found).2]
  case h_4 error refused =>
      have long : ¬piece.utf8ByteSize ≤ DiskPath.maxPieceSize := fun short => by
        simp [child?_eq_ok_iff.mpr ⟨short, rfl⟩] at refused
      simp [long]

/-- One piece of a path leads to the place it names. -/
theorem Reached.step {piece : String} {next : Position} (reached : Reached root position)
    (moved : position.step piece = .ok next) :
    Reached root next ∧ next.place = DiskPath.descend position.place piece := by
  rcases step_eq_ok_iff.mp moved with
    ⟨silent, rfl⟩ | ⟨loud, rfl, rfl⟩ | ⟨loud, named, -, entries, standing, rfl⟩
  · exact ⟨reached, by simp [DiskPath.descend, silent]⟩
  · exact ⟨reached.up, by simp [DiskPath.descend, loud, place_up]⟩
  · exact ⟨reached.down standing, by simp [DiskPath.descend, loud, named, place_down]⟩

/-- A walk leads to the place that its pieces name. -/
theorem Reached.walk {pieces : List String} {last : Position} (reached : Reached root position)
    (moved : position.walk pieces = .ok last) :
    Reached root last ∧ last.place = pieces.foldl DiskPath.descend position.place := by
  induction pieces generalizing position with
  | nil =>
      cases moved
      exact ⟨reached, rfl⟩
  | cons piece pieces ih =>
      rw [Position.walk, List.foldlM_cons, bind_eq_ok_iff] at moved
      obtain ⟨next, first, others⟩ := moved
      obtain ⟨along, here⟩ := reached.step first
      rw [List.foldl_cons, ← here]
      exact ih along others

/-- Where directories stay directories, a walk that arrives still does. -/
theorem Reached.walk_of_kept {after : Folder} {moving : Position} {pieces : List String}
    {last : Position} (kept : ∀ place, root.sight? place = some .directory →
      after.sight? place = some .directory)
    (reached : Reached root position) (follows : Reached after moving)
    (level : moving.place = position.place) (moved : position.walk pieces = .ok last) :
    ∃ final, moving.walk pieces = .ok final ∧ Reached after final ∧ final.place = last.place := by
  induction pieces generalizing position moving with
  | nil =>
      cases moved
      exact ⟨moving, rfl, follows, level⟩
  | cons piece pieces ih =>
      rw [Position.walk, List.foldlM_cons, bind_eq_ok_iff] at moved
      obtain ⟨next, first, others⟩ := moved
      obtain ⟨along, here⟩ := reached.step first
      have arrives : ∃ further, moving.step piece = .ok further := by
        rcases step_eq_ok_iff.mp first with
          ⟨silent, -⟩ | ⟨loud, upwards, -⟩ | ⟨loud, named, short, entries, standing, -⟩
        · exact ⟨_, step_eq_ok_iff.mpr (.inl ⟨silent, rfl⟩)⟩
        · exact ⟨_, step_eq_ok_iff.mpr (.inr (.inl ⟨loud, upwards, rfl⟩))⟩
        · have seen : after.sight? (moving.place ++ [piece]) = some .directory := by
            rw [level]
            rw [reached.lookup] at standing
            exact kept _ (Folder.sight?_eq_directory_iff.mpr ⟨entries, standing⟩)
          obtain ⟨below, found⟩ := Folder.sight?_eq_directory_iff.mp seen
          rw [← follows.lookup] at found
          exact ⟨_, step_eq_ok_iff.mpr (.inr (.inr ⟨loud, named, short, below, found, rfl⟩))⟩
      obtain ⟨further, second⟩ := arrives
      obtain ⟨beside, there⟩ := follows.step second
      obtain ⟨final, walked, result⟩ := ih along beside (by rw [there, here, level]) others
      have whole : moving.walk (piece :: pieces) = .ok final := by
        rw [Position.walk, List.foldlM_cons, second]
        exact walked
      exact ⟨final, whole, result⟩

end Position

open Position

/-- Where the walk along a path starts. -/
def origin (tree : FileTree) (path : String) : Except StorageError Position :=
  if DiskPath.isAbsolute path then .ok { entries := tree.root }
  else Position.walk { entries := tree.root } tree.workingDirectory

/-- The walk along the pieces of a path, up to the last one. -/
def Position.approach (start : Position) (pieces : List String) : Except StorageError Target :=
  match pieces.reverse.dropWhile (· == "") with
  | [] => .ok (.directory start)
  | last :: above => do
      let position ← start.walk above.reverse
      if last == "." then return .directory position
      else if last == ".." then return .directory position.up
      else return .entry position last (pieces.getLast? == some "")

/-- A path is walked from its origin. -/
theorem target_eq (tree : FileTree) (path : String) :
    tree.target path =
      (checkPath path >>= fun _ => tree.origin path >>= (·.approach (DiskPath.pieces path))) := by
  unfold target origin
  split <;> rfl

/-- The walk ends at a name in a directory when the pieces before the name lead to the directory. -/
theorem Position.approach_eq_entry_iff {start position : Position} {pieces : List String}
    {name : String} {slash : Bool} :
    start.approach pieces = .ok (.entry position name slash) ↔
      ∃ above, pieces.reverse.dropWhile (· == "") = name :: above ∧ name ≠ "." ∧ name ≠ ".." ∧
        start.walk above.reverse = .ok position ∧ (pieces.getLast? == some "") = slash := by
  unfold approach
  split
  case h_1 => simp [*]
  case h_2 last above remaining =>
      rw [remaining, bind_eq_ok_iff]
      constructor
      · rintro ⟨reached, walked, ended⟩
        split at ended
        case isTrue => cases ended
        case isFalse single =>
        split at ended
        case isTrue => cases ended
        case isFalse double =>
        cases ended
        exact ⟨above, rfl, by simpa using single, by simpa using double, walked, rfl⟩
      · rintro ⟨_, ⟨rfl, rfl⟩, single, double, walked, rfl⟩
        exact ⟨position, walked, by simp [single, double]; rfl⟩
variable {tree : FileTree} {path name : String} {position start : Position} {slash : Bool}

theorem origin_reached (begins : tree.origin path = .ok start) :
    Reached tree.root start ∧ start.place = if DiskPath.isAbsolute path then []
      else tree.workingDirectory.foldl DiskPath.descend [] := by
  unfold origin at begins
  split at begins
  case isTrue absolute =>
      cases begins
      rw [if_pos absolute]
      exact ⟨.start, rfl⟩
  case isFalse relative =>
      rw [if_neg relative]
      exact Reached.start.walk begins

/-- A path that leads to a name in a directory names the place of the name there. -/
theorem target_reached (found : tree.target path = .ok (.entry position name slash)) :
    Reached tree.root position ∧ tree.place path = position.place ++ [name] := by
  rw [target_eq, check_bind_eq_ok_iff, bind_eq_ok_iff] at found
  obtain ⟨-, start, begins, approached⟩ := found
  obtain ⟨above, remaining, single, double, walked, -⟩ := approach_eq_entry_iff.mp approached
  obtain ⟨begun, home⟩ := origin_reached begins
  obtain ⟨reached, arrived⟩ := begun.walk walked
  have named : name ≠ "" := by
    have kept := List.head?_dropWhile_not (· == "") (DiskPath.pieces path).reverse
    simpa [remaining] using kept
  constructor
  · exact reached
  rw [place, ← DiskPath.foldl_descend_dropWhile, remaining, List.reverse_cons, List.foldl_append,
    ← home, ← arrived]
  simp [DiskPath.descend, DiskPath.isSilent, named, single, double]

section Kept

variable {after : FileTree} (home : after.workingDirectory = tree.workingDirectory)
  (kept : ∀ place, tree.sight? place = some .directory → after.sight? place = some .directory)

include home kept

theorem origin_of_kept (begins : tree.origin path = .ok start) :
    ∃ other, after.origin path = .ok other ∧ Reached after.root other ∧
      other.place = start.place := by
  unfold origin at begins ⊢
  split at begins
  case isTrue absolute =>
      cases begins
      rw [if_pos absolute]
      exact ⟨_, rfl, .start, rfl⟩
  case isFalse relative =>
      rw [if_neg relative, home]
      exact Reached.walk_of_kept kept .start .start rfl begins

/-- Where directories stay directories, a path still leads to the same place. -/
theorem target_of_kept (found : tree.target path = .ok (.entry position name slash)) :
    ∃ moved, after.target path = .ok (.entry moved name slash) := by
  rw [target_eq, check_bind_eq_ok_iff, bind_eq_ok_iff] at found
  obtain ⟨checked, start, begins, approached⟩ := found
  obtain ⟨above, remaining, single, double, walked, slashed⟩ := approach_eq_entry_iff.mp approached
  obtain ⟨begun, -⟩ := origin_reached begins
  obtain ⟨other, starts, along, level⟩ := origin_of_kept home kept begins
  obtain ⟨moved, walks, -, -⟩ := Reached.walk_of_kept kept begun along level walked
  exists moved
  rw [target_eq, checked, starts]
  exact approach_eq_entry_iff.mpr ⟨above, remaining, single, double, walks, slashed⟩

end Kept

end FileTree

end VtableHeader
