/-!
# Command-line arguments

Arguments are read from left to right.  Some options hold for all commands and
may stand before or after the command word; before it there is also the option
that shows the version.  Long options take their value after an equals sign or
as the next argument; short ones may be grouped, and the value of the last one
may follow it directly.  Every option may be given once on each side of the
command word.  Two hyphens end the options.
-/

namespace VtableHeader

/-- What `dump` prints. -/
inductive DumpFormat where
  | outline
  | header
  deriving DecidableEq, Repr

/-- What the user asks for. -/
inductive Command where
  /-- Generate the header of a unit. -/
  | generate (input : String) (output : Option String)
  /-- Check that headers of units can be generated. -/
  | check (files : List String)
  /-- Print a unit or its header. -/
  | dump (file : String) (format : DumpFormat)
  deriving DecidableEq, Repr

/-- A command with its configuration file, or the wish to see the version. -/
inductive Invocation where
  | showVersion
  | execute (config : Option String) (command : Command)
  deriving DecidableEq, Repr

namespace Command

/-- The options. -/
inductive Flag where
  | config
  | verbose
  | version
  | output
  | format
  deriving DecidableEq, Repr

/-- Where in the arguments an option stands: before the command word, or after
it. -/
inductive Level where
  | top
  | generate
  | check
  | dump
  deriving DecidableEq, Repr

/-- Whether an option is followed by a value. -/
def Flag.takesValue : Flag → Bool
  | .config | .output | .format => true
  | .verbose | .version => false

/-- The long names of options at a level. -/
def Level.long? (level : Level) (name : String) : Option Flag :=
  if name == "config" then some .config
  else if name == "verbose" then some .verbose
  else if name == "version" && level = .top then some .version
  else if name == "output" && level = .generate then some .output
  else if name == "format" && level = .dump then some .format
  else none

/-- The short names of options at a level. -/
def Level.short? (level : Level) (name : Char) : Option Flag :=
  if name = 'c' then some .config
  else if name = 'v' then some .verbose
  else if name = 'V' ∧ level = .top then some .version
  else if name = 'o' ∧ level = .generate then some .output
  else none

/-- The command words. -/
def Level.ofWord? (word : String) : Option Level :=
  if word == "generate" then some .generate
  else if word == "check" then some .check
  else if word == "dump" then some .dump
  else none

/-- What has been read at one level. -/
structure Parsed where
  options : List (Flag × String) := []
  operands : List String := []
  deriving DecidableEq, Repr

/-- Whether an option accepts a value.  Paths must not be empty, and formats are
spelled exactly. -/
def Flag.accepts : Flag → String → Bool
  | .format, value => value == "ast" || value == "header"
  | .config, value | .output, value => !value.isEmpty
  | .verbose, _ | .version, _ => true

/-- Record an option, which must not be repeated. -/
def Parsed.addOption (parsed : Parsed) (flag : Flag) (value : String) : Option Parsed :=
  if (parsed.options.lookup flag).isNone && flag.accepts value then
    some { parsed with options := parsed.options ++ [(flag, value)] }
  else none

/-- Record an operand, which is a path and must not be empty. -/
def Parsed.addOperand (parsed : Parsed) (operand : String) : Option Parsed :=
  if operand.isEmpty then none
  else some { parsed with operands := parsed.operands ++ [operand] }

/-- What one argument leads to. -/
inductive Progress where
  /-- The argument is complete. -/
  | done (parsed : Parsed)
  /-- The next argument is the value of an option. -/
  | awaiting (parsed : Parsed) (flag : Flag)
  /-- The version is asked for, whatever follows. -/
  | version

/-- Read an option with the value that is attached to it, if any. -/
def readOption (parsed : Parsed) (flag : Flag) (attached : Option String) : Option Progress :=
  if flag = .version then
    if attached.isSome then none else some .version
  else if flag.takesValue then
    match attached with
    | some value => (parsed.addOption flag value).map .done
    | none => some (.awaiting parsed flag)
  else if attached.isSome then none
  else (parsed.addOption flag "").map .done

/-- Read a long option after its hyphens. -/
def readLong (level : Level) (parsed : Parsed) (text : List Char) : Option Progress := do
  let name := String.ofList (text.takeWhile (· != '='))
  let attached :=
    match text.dropWhile (· != '=') with
    | [] => none
    | _ :: value => some (String.ofList value)
  readOption parsed (← level.long? name) attached

/-- Read a group of short options after its hyphen. -/
def readShort (level : Level) (parsed : Parsed) : List Char → Option Progress
  | [] => some (.done parsed)
  | name :: rest => do
      let flag ← level.short? name
      if flag.takesValue then
        match rest with
        | [] => readOption parsed flag none
        | '=' :: value => readOption parsed flag (some (String.ofList value))
        | value => readOption parsed flag (some (String.ofList value))
      else
        match ← readOption parsed flag none with
        | .done parsed => readShort level parsed rest
        | other => some other

/-- Whether an argument looks like an option. -/
def looksLikeOption (argument : String) : Bool :=
  match argument.toList with
  | '-' :: _ :: _ => true
  | _ => false

/-- Read an argument that looks like an option. -/
def readHyphened (level : Level) (parsed : Parsed) (argument : String) : Option Progress :=
  match argument.toList with
  | '-' :: '-' :: text => readLong level parsed text
  | '-' :: text => readShort level parsed text
  | _ => none

/-- What the arguments of one level lead to. -/
inductive Outcome where
  /-- All arguments belong to the level. -/
  | ended (parsed : Parsed)
  /-- A command word, and the arguments after it. -/
  | command (parsed : Parsed) (level : Level) (rest : List String)
  | version

/-- Read the arguments of one level.  `pending` is an option that waits for its
value; a value must not look like an option. -/
def readLevel (level : Level) : Parsed → Option Flag → List String → Option Outcome
  | parsed, none, [] => some (.ended parsed)
  | _, some _, [] => none
  | parsed, some flag, argument :: rest => do
      if looksLikeOption argument then none
      else readLevel level (← parsed.addOption flag argument) none rest
  | parsed, none, argument :: rest =>
      if argument == "--" then do
        some (.ended (← rest.foldlM Parsed.addOperand parsed))
      else if looksLikeOption argument then do
        match ← readHyphened level parsed argument with
        | .done parsed => readLevel level parsed none rest
        | .awaiting parsed flag => readLevel level parsed (some flag) rest
        | .version => some .version
      else
        match level with
        | .top => (Level.ofWord? argument).map fun command => .command parsed command rest
        | _ => do readLevel level (← parsed.addOperand argument) none rest

/-- The command with the given options and operands. -/
def Parsed.command? (parsed : Parsed) : Level → Option Command
  | .top => none
  | .generate =>
      match parsed.operands with
      | [input] => some (.generate input (parsed.options.lookup .output))
      | _ => none
  | .check => if parsed.operands.isEmpty then none else some (.check parsed.operands)
  | .dump =>
      match parsed.operands with
      | [file] =>
          some (.dump file (if parsed.options.lookup .format == some "header" then .header
            else .outline))
      | _ => none

end Command

/-- Read all arguments; `none` if they break the usage. -/
def Invocation.parse? (arguments : List String) : Option Invocation := do
  match ← Command.readLevel .top {} none arguments with
  | .version => some .showVersion
  | .ended _ => none
  | .command before level rest =>
      match ← Command.readLevel level {} none rest with
      | .ended after =>
          let config := after.options.lookup .config <|> before.options.lookup .config
          some (.execute config (← after.command? level))
      | _ => none

end VtableHeader
