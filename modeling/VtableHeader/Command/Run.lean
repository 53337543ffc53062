import VtableHeader.Build
import VtableHeader.Command.Arguments

/-!
# Running commands

A run reads and writes files and answers what the program prints and its exit
code.  The configuration is loaded before anything else.  `check` stops at the
first file that fails and names it.
-/

namespace VtableHeader

/-- What a run of the program shows. -/
structure Report where
  exitCode : Nat := 0
  /-- The text on standard output. -/
  output : String := ""
  /-- The file that `check` found faulty. -/
  failed : List String := []
  /-- The error that ended the run. -/
  error : Option BuildError := none
  deriving DecidableEq, Repr

namespace Report

/-- The exit code after an error. -/
def failureCode : Nat := 1

/-- The exit code after a wrong usage. -/
def usageCode : Nat := 2

/-- The report of wrong usage. -/
def usage : Report :=
  { exitCode := usageCode }

/-- The report of a run that ended in an error. -/
def ofError (error : BuildError) : Report :=
  { exitCode := failureCode, error := some error }

/-- What is said on standard error about the files that `check` found faulty. -/
def failureNotice (report : Report) : String :=
  String.join (report.failed.map (· ++ ": Error\n"))

/-- Text on standard output before what a report has. -/
def after (text : String) (report : Report) : Report :=
  { report with output := text ++ report.output }

end Report

/-- The name and version of the program. -/
def versionLine : String := "jtrans 0.1.0"

namespace Command

variable {m : Type → Type} [Monad m] [Storage m]

/-- The report of a job that prints a text when it succeeds. -/
def printing (job : Builder.Job m String) : m Report := do
  match ← job.run with
  | .ok output => return { output }
  | .error error => return .ofError error

/-- What is printed after a build: where the header went, or the header itself. -/
def buildNotice (input : String) (summary : BuildSummary) : String :=
  match summary.output with
  | some path =>
      "Generated " ++ toString summary.classes ++ " classes: " ++ input ++ " -> " ++ path ++ "\n"
  | none => summary.header

/-- Check files one after another, up to the first that fails. -/
def checkFiles (builder : Builder) : List String → m Report
  | [] => return {}
  | file :: rest => do
      match ← (builder.headerOfFile file).run with
      | .ok _ => return (← checkFiles builder rest).after (file ++ ": OK\n")
      | .error error => return { Report.ofError error with failed := [file] }

/-- Run a command under a configuration. -/
def runWith (builder : Builder) : Command → m Report
  | .generate input output =>
      printing do return buildNotice input (← builder.build input output)
  | .check files => checkFiles builder files
  | .dump file .outline => printing do return (← Builder.loadUnit file).outline ++ "\n"
  | .dump file .header => printing (builder.headerOfFile file)

end Command

namespace Invocation

variable {m : Type → Type} [Monad m] [Storage m]

/-- The builder for a configuration file, or one with defaults. -/
def builderFor : Option String → Builder.Job m Builder
  | none => pure {}
  | some path => Builder.ofConfigFile path

/-- Do what the user asks for. -/
def run : Invocation → m Report
  | .showVersion => return { output := versionLine ++ "\n" }
  | .execute config command => do
      match ← (builderFor config).run with
      | .ok builder => command.runWith builder
      | .error error => return .ofError error

/-- Do what the arguments ask for, or report wrong usage. -/
def runArguments (arguments : List String) : m Report :=
  match parse? arguments with
  | some invocation => run invocation
  | none => return .usage

end Invocation

end VtableHeader
