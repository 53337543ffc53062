/-!
# Paths of files

A path is text with slashes between its pieces.  Repeated slashes and single dots
inside a path do not count as pieces, and nothing is ever normalised: the parent
of a path is a leading part of its text, and joining only puts texts together.
-/

namespace VtableHeader.DiskPath

/-- The pieces of a path between its slashes. -/
def pieces (path : String) : List String :=
  (path.toList.splitOn '/').map String.ofList

/-- Whether a path starts at the root of the file system. -/
def isAbsolute (path : String) : Bool :=
  path.toList.head? == some '/'

/-- The most bytes that one piece of a path may take. -/
def maxPieceSize : Nat := 255

/-- The most bytes that a whole path may take. -/
def maxSize : Nat := 4095

/-- Pieces that name nothing when they follow another piece. -/
def isSilent (piece : String) : Bool :=
  piece == "" || piece == "."

/-- The path of the directory that holds `path`.  The root and the empty path have
none; the parent of a single piece is the empty path. -/
def parent? (path : String) : Option String :=
  match pieces path with
  | [] => none
  | first :: others =>
      match others.reverse.dropWhile isSilent with
      | [] => if first == "" then none else some ""
      | _ :: above =>
          match (above.dropWhile isSilent).reverse with
          | [] => some (if first == "" then "/" else first)
          | between => some ("/".intercalate (first :: between))

/-- The path `other` as seen from `base`.  An absolute path stays as it is. -/
def join (base other : String) : String :=
  if isAbsolute other || base.isEmpty then other
  else if base.toList.getLast? == some '/' then base ++ other
  else base ++ "/" ++ other

end VtableHeader.DiskPath
