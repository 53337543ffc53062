import VtableHeader.Options
import VtableHeader.Storage
import VtableHeader.Text.Blank
import VtableHeader.Text.Quoted
import VtableHeader.Toml.Document

/-!
# Project configuration

A configuration names the project, the runtime library that the header builds on,
and where and how the header is written.  All but the name of the project has a
default.  Settings that are empty or out of range are refused when the
configuration is loaded.
-/

namespace VtableHeader

/-- What identifies the project. -/
structure ProjectInfo where
  name : String
  version : Option String := none
  deriving DecidableEq, Repr

/-- The runtime library of the generated code. -/
structure RuntimeConfig where
  header : String := ({} : Options).runtimeHeader
  segments : List String := ({} : Options).runtimeNamespace
  deriving DecidableEq, Repr

/-- Where the header goes, and how wide it is indented. -/
structure OutputConfig where
  path : Option String := none
  indentWidth : Nat := ({} : Options).indentWidth
  deriving DecidableEq, Repr

/-- The configuration of a project. -/
structure Config where
  project : ProjectInfo
  runtime : RuntimeConfig := {}
  output : OutputConfig := {}
  deriving DecidableEq, Repr

/-- A setting that cannot be used. -/
inductive SettingFault where
  | emptyProjectName
  | emptyHeader
  | emptySegment (segments : List String)
  | indentWidth (width : Nat)
  deriving DecidableEq, Repr

/-- Why a configuration could not be loaded. -/
inductive ConfigError where
  | unreadable (cause : StorageError)
  | malformed
  | invalid (fault : SettingFault)
  deriving DecidableEq, Repr

namespace Config

/-- The widest indentation. -/
def maxIndentWidth : Nat := 16

end Config

/-- The wording of a fault. -/
def SettingFault.message : SettingFault → String
  | .emptyProjectName => "project name is empty"
  | .emptyHeader => "runtime header is empty"
  | .emptySegment segments =>
      "runtime namespace " ++ Text.quotedList segments ++ " has an empty segment"
  | .indentWidth width =>
      "indent_width must be between 1 and " ++ toString Config.maxIndentWidth ++ ", got " ++
        toString width

/-- The message of an error.  What exactly is malformed is not part of it. -/
def ConfigError.message : ConfigError → String
  | .unreadable cause => "cannot read jtrans.toml: " ++ cause.message
  | .malformed => "malformed jtrans.toml:"
  | .invalid fault => "invalid setting in jtrans.toml: " ++ fault.message

namespace Config

/-- A configuration with defaults for everything but the name. -/
def named (name : String) : Config :=
  { project := { name } }

/-- Refuse settings that would give a malformed preamble. -/
def validate (config : Config) : Except SettingFault Unit :=
  if Text.isBlank config.project.name then .error .emptyProjectName
  else if Text.isBlank config.runtime.header then .error .emptyHeader
  else if config.runtime.segments.any Text.isBlank then
    .error (.emptySegment config.runtime.segments)
  else if config.output.indentWidth = 0 ∨ maxIndentWidth < config.output.indentWidth then
    .error (.indentWidth config.output.indentWidth)
  else .ok ()

/-- The options that a configuration describes. -/
def options (config : Config) : Options where
  runtimeHeader := config.runtime.header
  runtimeNamespace := config.runtime.segments
  indentWidth := config.output.indentWidth

/-- Decode the part that names the project. -/
def decodeProject (value : Toml) : Option ProjectInfo := do
  let [name, version] ← value.record? ["name", "version"] | none
  some
    { name := ← Toml.required Toml.string? name
      version := ← Toml.optional Toml.string? version }

/-- Decode the part on the runtime library. -/
def decodeRuntime (value : Toml) : Option RuntimeConfig := do
  let [header, segments] ← value.record? ["header", "namespace"] | none
  some
    { header := ← Toml.defaulting ({} : RuntimeConfig).header Toml.string? header
      segments :=
        ← Toml.defaulting ({} : RuntimeConfig).segments (Toml.arrayOf? Toml.string?) segments }

/-- Decode the part on the output. -/
def decodeOutput (value : Toml) : Option OutputConfig := do
  let [path, indentWidth] ← value.record? ["path", "indent_width"] | none
  some
    { path := ← Toml.optional Toml.string? path
      indentWidth := ← Toml.defaulting ({} : OutputConfig).indentWidth Toml.nat? indentWidth }

/-- Decode a document. -/
def ofEntries? (entries : Toml.Entries) : Option Config := do
  some
    { project := ← Toml.required decodeProject (entries.lookup "project")
      runtime := ← Toml.defaulting {} decodeRuntime (entries.lookup "runtime")
      output := ← Toml.defaulting {} decodeOutput (entries.lookup "output") }

/-- The configuration that a document describes, if all its settings can be
used. -/
def ofToml (document : String) : Except ConfigError Config := do
  let some config := (Toml.parse? document).bind ofEntries? | throw .malformed
  match config.validate with
  | .ok _ => return config
  | .error fault => throw (.invalid fault)

/-- The configuration with its output path seen from the directory of the file at
`path`. -/
def relativeTo (config : Config) (path : String) : Config :=
  match config.output.path, DiskPath.parent? path with
  | some output, some directory =>
      { config with output := { config.output with path := some (DiskPath.join directory output) } }
  | _, _ => { config with output := { config.output with path := none } }

/-- Load the configuration in a file.  A relative output path is taken from the
directory of the file. -/
def ofFile {m : Type → Type} [Monad m] [Storage m] (path : String) :
    m (Except ConfigError Config) := do
  match ← Storage.readText path with
  | .error cause => return .error (.unreadable cause)
  | .ok document => return (ofToml document).map (·.relativeTo path)

end Config

end VtableHeader
