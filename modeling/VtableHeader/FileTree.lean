import VtableHeader.Storage

/-!
# Trees of files

A tree of files as a value: a directory holds files and further directories, each
under its name.  Relative paths start at the working directory.  Paths are walked
piece by piece, so that a path through a missing directory, or through a file, is
refused even where a later piece would lead back.

The way from the root to a node is its place, a list of names.  `FileTree.node?`
looks a place up, and every change of a tree puts one node at one place.
-/

namespace VtableHeader

/-- What stands at a place of the tree. -/
inductive FileNode where
  | file (contents : ByteArray)
  | directory (entries : List (String × FileNode))

/-- What a directory holds, every node under its name. -/
abbrev Folder := List (String × FileNode)

namespace Folder

/-- Put a node under a name, instead of what stands there. -/
def put (name : String) (node : FileNode) : Folder → Folder
  | [] => [(name, node)]
  | entry :: rest =>
      if entry.1 == name then (name, node) :: rest else entry :: put name node rest

/-- The new node is found under its name. -/
@[simp]
theorem lookup_put_self (folder : Folder) (name : String) (node : FileNode) :
    (folder.put name node).lookup name = some node := by
  induction folder with
  | nil => simp [put]
  | cons entry rest ih =>
      unfold put
      split
      case isTrue => simp
      case isFalse different =>
          have unequal : (name == entry.1) = false := by grind
          rw [List.lookup_cons, unequal]
          exact ih

/-- All other names keep what they stand for. -/
theorem lookup_put_of_ne (folder : Folder) {name other : String} (node : FileNode)
    (different : other ≠ name) : (folder.put name node).lookup other = folder.lookup other := by
  have unequal : (other == name) = false := by simpa using different
  induction folder with
  | nil => rw [put, List.lookup_cons, unequal]
  | cons entry rest ih =>
      unfold put
      split
      case isTrue same =>
          have same : entry.1 = name := by simpa using same
          rw [List.lookup_cons, List.lookup_cons, same, unequal]
      case isFalse => rw [List.lookup_cons, List.lookup_cons, ih]

/-- What stands at a place below the folder; the empty place is the folder itself. -/
def node? (folder : Folder) : List String → Option FileNode
  | [] => some (.directory folder)
  | name :: place =>
      match folder.lookup name with
      | none => none
      | some (.directory entries) => node? entries place
      | some (.file contents) => if place.isEmpty then some (.file contents) else none

/-- Put a node under a name in the directory at `place`.  Nothing changes where
`place` is no directory. -/
def putAt (name : String) (node : FileNode) (folder : Folder) : List String → Folder
  | [] => folder.put name node
  | step :: place =>
      match folder.lookup step with
      | some (.directory entries) => folder.put step (.directory (putAt name node entries place))
      | _ => folder

end Folder

mutual

/-- The files at and below a node, each with its place.  `trail` leads to the node,
its last name first. -/
def FileNode.files (trail : List String) : FileNode → List (List String × ByteArray)
  | .file contents => [(trail.reverse, contents)]
  | .directory entries => Folder.files trail entries

/-- The files below a directory that `trail` leads to. -/
def Folder.files (trail : List String) : List (String × FileNode) → List (List String × ByteArray)
  | [] => []
  | (name, node) :: rest => FileNode.files (name :: trail) node ++ Folder.files trail rest

end

/-- The files and directories below the root, which is always there. -/
structure FileTree where
  root : Folder := []
  workingDirectory : List String := []

namespace FileTree

/-- What stands at a place. -/
def node? (tree : FileTree) (place : List String) : Option FileNode :=
  tree.root.node? place

/-- A directory that a walk has reached: what it holds, and the directories above
it, the nearest first, each with the name that was followed out of it. -/
structure Position where
  entries : Folder
  above : List (String × Folder) := []

namespace Position

/-- The place of the directory. -/
def place (position : Position) : List String :=
  (position.above.map (·.1)).reverse

/-- The directory above; the root is above itself. -/
def up (position : Position) : Position :=
  match position.above with
  | [] => position
  | (_, entries) :: above => { entries, above }

/-- What the directory holds under a name, if anything. -/
def child? (position : Position) (name : String) : Except StorageError (Option FileNode) :=
  if DiskPath.maxPieceSize < name.utf8ByteSize then .error .nameTooLong
  else .ok (position.entries.lookup name)

/-- The directory after one more piece of a path.  The last piece is treated like
any other: a missing node is an error here. -/
def step (position : Position) (piece : String) : Except StorageError Position :=
  if DiskPath.isSilent piece then .ok position
  else if piece == ".." then .ok position.up
  else
    match position.child? piece with
    | .ok (some (.directory entries)) =>
        .ok { entries, above := (piece, position.entries) :: position.above }
    | .ok (some (.file _)) => .error .notDirectory
    | .ok none => .error .notFound
    | .error error => .error error

/-- The directory that a list of pieces leads to. -/
def walk (position : Position) (pieces : List String) : Except StorageError Position :=
  pieces.foldlM step position

end Position

/-- Where a path leads: a directory, or a name in a directory.  The flag tells
whether a slash follows the name. -/
inductive Target where
  | directory (position : Position)
  | entry (position : Position) (name : String) (slash : Bool)

/-- Refuse a path as a whole, before any piece of it is looked up. -/
def checkPath (path : String) : Except StorageError Unit :=
  if path.toList.contains '\x00' then .error .nulInPath
  else if DiskPath.maxSize < path.utf8ByteSize then .error .nameTooLong
  else if path.isEmpty then .error .notFound
  else .ok ()

/-- Walk a path up to its last piece. -/
def target (tree : FileTree) (path : String) : Except StorageError Target := do
  checkPath path
  let root : Position := { entries := tree.root }
  let start ← if DiskPath.isAbsolute path then pure root else root.walk tree.workingDirectory
  let pieces := DiskPath.pieces path
  let slash := pieces.getLast? == some ""
  match (pieces.reverse.dropWhile (· == "")) with
  | [] => return .directory start
  | last :: above =>
      let position ← start.walk above.reverse
      if last == "." then return .directory position
      else if last == ".." then return .directory position.up
      else return .entry position last slash

/-- Put a node under a name in a directory of the tree. -/
def put (tree : FileTree) (position : Position) (name : String) (node : FileNode) : FileTree :=
  { tree with root := tree.root.putAt name node position.place }

/-- The contents of a file. -/
def readBytes (tree : FileTree) (path : String) : Except StorageError ByteArray := do
  match ← tree.target path with
  | .directory _ => throw .isDirectory
  | .entry position name slash =>
      match ← position.child? name with
      | none => throw .notFound
      | some (.directory _) => throw .isDirectory
      | some (.file contents) => if slash then throw .notDirectory else return contents

/-- The text of a file. -/
def readText (tree : FileTree) (path : String) : Except StorageError String := do
  let contents ← tree.readBytes path
  match String.fromUTF8? contents with
  | some text => return text
  | none => throw .notText

/-- Replace the contents of a file, or create it in a directory that is there.  A
slash at the end asks for a directory, whatever the name stands for. -/
def writeBytes (tree : FileTree) (path : String) (contents : ByteArray) :
    Except StorageError FileTree := do
  match ← tree.target path with
  | .directory _ => throw .isDirectory
  | .entry position name slash =>
      if slash then throw .isDirectory
      match ← position.child? name with
      | some (.directory _) => throw .isDirectory
      | _ => return tree.put position name (.file contents)

/-- Create one directory in a directory that is there. -/
def makeDirectory (tree : FileTree) (path : String) : Except StorageError FileTree := do
  match ← tree.target path with
  | .directory _ => throw .alreadyExists
  | .entry position name _ =>
      match ← position.child? name with
      | some _ => throw .alreadyExists
      | none => return tree.put position name (.directory [])

/-- Whether a path names a directory. -/
def isDirectory (tree : FileTree) (path : String) : Bool :=
  match tree.target path with
  | .ok (.directory _) => true
  | .ok (.entry position name _) =>
      match position.child? name with
      | .ok (some (.directory _)) => true
      | _ => false
  | .error _ => false

/-- Keep the new tree of a change that succeeds, and the old one otherwise. -/
def change (result : FileTree → Except StorageError FileTree) :
    StateM FileTree (Except StorageError Unit) := do
  match result (← get) with
  | .ok tree => do
      set tree
      return .ok ()
  | .error error => return .error error

instance : Storage (StateM FileTree) where
  readText path := do return (← get).readText path
  writeText path text := change (·.writeBytes path text.toUTF8)
  makeDirectory path := change (·.makeDirectory path)
  isDirectory path := do return (← get).isDirectory path

/-- Create a directory and what is missing above it, as far as that goes. -/
def layOutDirectory (tree : FileTree) (path : String) : FileTree :=
  let create : StateM FileTree (Except StorageError Unit) := Storage.createDirectories path
  (create.run tree).2

/-- Lay out a file, with the directories above it.  What cannot be laid out is
left away. -/
def layOutFile (tree : FileTree) (path : String) (contents : ByteArray) : FileTree :=
  let prepared := tree.layOutDirectory ((DiskPath.parent? path).getD "")
  match prepared.writeBytes path contents with
  | .ok written => written
  | .error _ => prepared

/-- The files of `tree` that `before` has not, or has with other contents. -/
def changedFiles (tree before : FileTree) : List (List String × ByteArray) :=
  (Folder.files [] tree.root).filter fun (place, contents) =>
    match before.node? place with
    | some (.file old) => old != contents
    | _ => true

end FileTree

end VtableHeader
