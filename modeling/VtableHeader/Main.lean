import VtableHeader.Command.Run

/-!
# The program

This module runs commands on the disk.  Everything it decides is decided
elsewhere: it only passes operations on files to the operating system and prints
what a report holds.
-/

namespace VtableHeader

/-- The number of an error, which some operations report with its sign changed. -/
def errorNumber (code : UInt32) : Nat :=
  min code.toNat (0 - code).toNat

/-- The cause of a failure that the operating system reports. -/
def storageErrorOf (error : IO.Error) : StorageError :=
  match error with
  | .noFileOrDirectory .. => .notFound
  | .alreadyExists .. => .alreadyExists
  | .inappropriateType _ code _ =>
      if errorNumber code = 20 then .notDirectory else .isDirectory
  | .invalidArgument _ code _ =>
      if errorNumber code = 36 then .nameTooLong else .nulInPath
  | other => .other (toString other)

/-- Run an operation on the disk and keep its failure as a value. -/
def onDisk {α : Type} (operation : IO α) : IO (Except StorageError α) := do
  match ← operation.toBaseIO with
  | .ok result => return .ok result
  | .error error => return .error (storageErrorOf error)

instance : Storage IO where
  readText path := do
    match ← onDisk (IO.FS.readBinFile path) with
    | .error error => return .error error
    | .ok contents =>
        match String.fromUTF8? contents with
        | some text => return .ok text
        | none => return .error .notText
  writeText path text := onDisk (IO.FS.writeFile path text)
  makeDirectory path := onDisk (IO.FS.createDir path)
  isDirectory path := do
    match ← onDisk (IO.FS.realPath path) with
    | .ok place => place.isDir
    | .error _ => return false

/-- Print what a report holds. -/
def Report.print (report : Report) : IO Unit := do
  IO.print report.output
  IO.eprint report.failureNotice
  if let some error := report.error then
    IO.eprintln error.message

end VtableHeader

/-- Run the program on its arguments. -/
def main (arguments : List String) : IO UInt32 := do
  let report : VtableHeader.Report ← VtableHeader.Invocation.runArguments arguments
  report.print
  return report.exitCode.toUInt32
