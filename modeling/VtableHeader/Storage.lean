import VtableHeader.DiskPath

/-!
# Access to files

The builder needs four operations on files.  They are given as a class of
monads, so that the same builder runs on the disk and on a tree of files held as
a value.
-/

namespace VtableHeader

/-- Why an operation on a file failed. -/
inductive StorageError where
  | notFound
  | alreadyExists
  | notDirectory
  | isDirectory
  /-- A piece of the path, or the whole path, takes too many bytes. -/
  | nameTooLong
  /-- The path holds the character that ends a path for the operating system. -/
  | nulInPath
  /-- The file is not text. -/
  | notText
  /-- Any other cause, with its description. -/
  | other (description : String)
  deriving DecidableEq, Repr

/-- The description of a failure. -/
def StorageError.message : StorageError → String
  | .notFound => "No such file or directory (os error 2)"
  | .alreadyExists => "File exists (os error 17)"
  | .notDirectory => "Not a directory (os error 20)"
  | .isDirectory => "Is a directory (os error 21)"
  | .nameTooLong => "File name too long (os error 36)"
  | .nulInPath => "file name contained an unexpected NUL byte"
  | .notText => "stream did not contain valid UTF-8"
  | .other description => description

/-- Operations on files. -/
class Storage (m : Type → Type) where
  /-- The text of a file. -/
  readText : String → m (Except StorageError String)
  /-- Replace the contents of a file, or create it. -/
  writeText : String → String → m (Except StorageError Unit)
  /-- Create one directory. -/
  makeDirectory : String → m (Except StorageError Unit)
  /-- Whether a path names a directory. -/
  isDirectory : String → m Bool

namespace Storage

variable {m : Type → Type} [Monad m] [Storage m]

/-- Create a directory; that it exists already is not an error.  Where a directory
above it is missing, there is nothing to find at the path itself. -/
def ensureDirectory (path : String) : m (Except StorageError Unit) := do
  match ← makeDirectory path with
  | .ok _ => return .ok ()
  | .error .notFound => return .error .notFound
  | .error error => if ← isDirectory path then return .ok () else return .error error

/-- Create a directory and what is missing above it, going up at most `bound`
levels. -/
def createUpwards : Nat → String → m (Except StorageError Unit)
  | 0, _ => return .ok ()
  | bound + 1, path => do
      if path.isEmpty then return .ok ()
      match ← ensureDirectory path with
      | .error .notFound =>
          match DiskPath.parent? path with
          | none => return .error (.other "failed to create whole tree")
          | some parent =>
              match ← createUpwards bound parent with
              | .error error => return .error error
              | .ok _ => ensureDirectory path
      | result => return result

/-- Create a directory and what is missing above it.  A parent is shorter than
the path itself, so the length of the path bounds the levels. -/
def createDirectories (path : String) : m (Except StorageError Unit) :=
  createUpwards path.length path

end Storage

end VtableHeader
