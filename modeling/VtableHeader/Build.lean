import VtableHeader.Config
import VtableHeader.Generator

/-!
# Building headers from files

The builder loads a unit from a file, generates its header under a configuration
and writes it out.  Nothing is written unless the header could be generated.
-/

namespace VtableHeader

/-- Why a build failed. -/
inductive BuildError where
  | config (path : String) (cause : ConfigError)
  | unreadable (path : String) (cause : StorageError)
  | unparsable (path : String)
  | generation (cause : GenError)
  | noDirectory (path : String) (cause : StorageError)
  | unwritable (path : String) (cause : StorageError)
  deriving DecidableEq, Repr

/-- The message of an error.  What exactly could not be parsed is not part of
it. -/
def BuildError.message : BuildError → String
  | .config path cause => "Failed to load " ++ path ++ ": " ++ cause.message
  | .unreadable path cause => "Failed to read " ++ path ++ ": " ++ cause.message
  | .unparsable path => "Failed to parse AST " ++ path ++ ":"
  | .generation cause => cause.message
  | .noDirectory path cause => "Failed to create " ++ path ++ ": " ++ cause.message
  | .unwritable path cause => "Failed to write " ++ path ++ ": " ++ cause.message

/-- The outcome of a build. -/
structure BuildSummary where
  /-- How many classes the unit has. -/
  classes : Nat
  /-- Where the header was written, if anywhere. -/
  output : Option String
  header : String
  deriving DecidableEq, Repr

/-- A builder works under one configuration. -/
structure Builder where
  config : Config := .named "jtrans"
  deriving DecidableEq, Repr

namespace Builder

/-- An action on files that may fail. -/
abbrev Job (m : Type → Type) (α : Type) := ExceptT BuildError m α

variable {m : Type → Type} [Monad m] [Storage m]

/-- Run an operation on files, and say what its failure means. -/
def attempt {ε α : Type} (failure : ε → BuildError) (operation : m (Except ε α)) : Job m α :=
  ExceptT.mk do return (← operation).mapError failure

/-- A builder under the configuration in a file. -/
def ofConfigFile (path : String) : Job m Builder := do
  return { config := ← attempt (.config path) (Config.ofFile path) }

/-- Load the unit in a file. -/
def loadUnit (path : String) : Job m ClassUnit := do
  let text ← attempt (.unreadable path) (Storage.readText path)
  match ClassUnit.load text with
  | .ok unit => return unit
  | .error _ => throw (.unparsable path)

/-- The header of a unit under the configuration. -/
def header (builder : Builder) (unit : ClassUnit) : Except BuildError String :=
  (unit.header builder.config.options).mapError .generation

/-- The header of the unit in a file. -/
def headerOfFile (builder : Builder) (input : String) : Job m String := do
  let unit ← loadUnit input
  builder.header unit

/-- Write a header, in a directory that is created if it is missing. -/
def writeHeader (header output : String) : Job m Unit := do
  match DiskPath.parent? output with
  | none | some "" => pure ()
  | some directory =>
      attempt (.noDirectory directory) (Storage.createDirectories directory)
  attempt (.unwritable output) (Storage.writeText output header)

/-- Generate the header of the unit in a file, and write it to the given path, or
else to the one in the configuration, if there is any. -/
def build (builder : Builder) (input : String) (output : Option String) : Job m BuildSummary := do
  let unit ← loadUnit input
  let header ← builder.header unit
  let output := output <|> builder.config.output.path
  match output with
  | some path => writeHeader header path
  | none => pure ()
  return { classes := unit.classes.length, output, header }

end Builder

end VtableHeader
