import VtableHeader.Command.Run
import VtableHeader.Proofs.BuildEffects

/-!
# Agreement of the commands

Every command that needs the header of a unit prepares it in the same way, `Builder.prepared`, and
differs only in what it does with the result: print it, write it, or say that it is there.  So
commands succeed on the same files and hand out the same text, and those that write nothing leave
the tree of files as it was.
-/

namespace VtableHeader

namespace FileTree

variable {α β ε : Type}

/-! ## Actions that only read -/

/-- The action leaves every tree as it was. -/
def ReadsOnly (action : StateM FileTree α) : Prop :=
  ∀ tree, (action.run tree).2 = tree

theorem readsOnly_pure (answer : α) : ReadsOnly (pure answer : StateM FileTree α) :=
  fun _ => rfl

theorem ReadsOnly.bind {action : StateM FileTree α} {next : α → StateM FileTree β}
    (first : ReadsOnly action) (second : ∀ answer, ReadsOnly (next answer)) :
    ReadsOnly (action >>= next) := by
  intro tree
  rw [StateT.run_bind]
  exact (second _ _).trans (first tree)

/-- The same for jobs. -/
theorem ReadsOnly.job_bind {job : Builder.Job (StateM FileTree) α}
    {next : α → Builder.Job (StateM FileTree) β} (first : ReadsOnly job.run)
    (second : ∀ answer, ReadsOnly (next answer).run) : ReadsOnly (job >>= next).run := by
  rw [ExceptT.run_bind]
  apply first.bind
  intro result
  cases result with
  | ok answer => exact second answer
  | error error => exact readsOnly_pure _

theorem readsOnly_readText (path : String) :
    ReadsOnly (Storage.readText path : StateM FileTree _) :=
  fun _ => rfl

theorem readsOnly_attempt {failure : ε → BuildError} {operation : StateM FileTree (Except ε α)}
    (reads : ReadsOnly operation) : ReadsOnly (Builder.attempt failure operation).run :=
  reads.bind fun _ => readsOnly_pure _

theorem readsOnly_builderFor (config : Option String) :
    ReadsOnly (Invocation.builderFor config : Builder.Job (StateM FileTree) Builder).run := by
  cases config with
  | none => exact readsOnly_pure _
  | some path =>
      have loading : ReadsOnly (Config.ofFile path : StateM FileTree _) := by
        apply (readsOnly_readText path).bind
        intro result
        cases result <;> exact readsOnly_pure _
      exact (readsOnly_attempt loading).job_bind fun _ => readsOnly_pure _

theorem readsOnly_loadUnit (file : String) :
    ReadsOnly (Builder.loadUnit file : Builder.Job (StateM FileTree) ClassUnit).run := by
  intro tree
  exact congrArg Prod.snd (Builder.perform_loadUnit tree file)

theorem readsOnly_headerOfFile (builder : Builder) (file : String) :
    ReadsOnly (builder.headerOfFile file : Builder.Job (StateM FileTree) String).run := by
  intro tree
  exact congrArg Prod.snd (Builder.perform_headerOfFile builder tree file)

theorem readsOnly_printing {job : Builder.Job (StateM FileTree) String}
    (reads : ReadsOnly job.run) : ReadsOnly (Command.printing job) := by
  apply reads.bind
  intro result
  cases result <;> exact readsOnly_pure _

theorem readsOnly_checkFiles (builder : Builder) (files : List String) :
    ReadsOnly (Command.checkFiles builder files : StateM FileTree Report) := by
  induction files with
  | nil => exact readsOnly_pure _
  | cons file rest ih =>
      apply (readsOnly_headerOfFile builder file).bind
      intro result
      cases result with
      | ok header => exact ih.bind fun _ => readsOnly_pure _
      | error error => exact readsOnly_pure _

theorem readsOnly_execute {config : Option String} {command : Command}
    (reads : ∀ builder, ReadsOnly (command.runWith builder : StateM FileTree Report)) :
    ReadsOnly ((Invocation.execute config command).run : StateM FileTree Report) := by
  apply (readsOnly_builderFor config).bind
  intro result
  cases result with
  | ok builder => exact reads builder
  | error error => exact readsOnly_pure _

theorem readsOnly_dump (builder : Builder) (file : String) (format : DumpFormat) :
    ReadsOnly ((Command.dump file format).runWith builder : StateM FileTree Report) := by
  cases format with
  | outline =>
      exact readsOnly_printing ((readsOnly_loadUnit file).job_bind fun _ => readsOnly_pure _)
  | header => exact readsOnly_printing (readsOnly_headerOfFile builder file)

/-- What the program shows on a tree, and the tree that it leaves behind. -/
def answer (tree : FileTree) (invocation : Invocation) : Report × FileTree :=
  (invocation.run : StateM FileTree Report).run tree

/-- Once the configuration is loaded, a command runs under it. -/
theorem answer_execute {tree : FileTree} {config : Option String} {builder : Builder}
    (command : Command)
    (loaded : (tree.perform (Invocation.builderFor config)).1 = .ok builder) :
    tree.answer (.execute config command) =
      (command.runWith builder : StateM FileTree Report).run tree := by
  have same : tree.perform (Invocation.builderFor config) = (.ok builder, tree) :=
    Prod.ext loaded (readsOnly_builderFor config tree)
  rw [answer, Invocation.run, StateT.run_bind]
  rw [perform] at same
  rw [same]
  rfl

end FileTree

/-- The report on a text that was obtained or not. -/
def Report.ofResult : Except BuildError String → Report
  | .ok output => { output }
  | .error error => .ofError error

theorem Report.exitCode_ofResult_iff {α : Type} {result : Except BuildError α}
    {text : α → String} :
    (Report.ofResult (result.map text)).exitCode = 0 ↔ result.toBool = true := by
  cases result with
  | ok answer => simp [Report.ofResult, Except.map, Except.toBool]
  | error error =>
      simp [Report.ofResult, Report.ofError, Report.failureCode, Except.map, Except.toBool]

namespace Command

variable {builder : Builder} {tree : FileTree}

/-- What is printed is what the job answers. -/
theorem run_printing (tree : FileTree) (job : Builder.Job (StateM FileTree) String) :
    (printing job).run tree = (.ofResult (tree.perform job).1, (tree.perform job).2) := by
  rw [printing, StateT.run_bind, FileTree.perform]
  rcases StateT.run (ExceptT.run job) tree with ⟨_ | _, next⟩ <;> rfl

theorem run_dump_header (builder : Builder) (tree : FileTree) (file : String) :
    (runWith builder (.dump file .header) : StateM FileTree Report).run tree =
      (.ofResult ((builder.prepared tree file).map Prod.snd), tree) := by
  rw [runWith, run_printing, Builder.perform_headerOfFile]

theorem run_generate (builder : Builder) (tree : FileTree) (file : String)
    (output : Option String) :
    (runWith builder (.generate file output) : StateM FileTree Report).run tree =
      (.ofResult ((tree.perform (builder.build file output)).1.map (buildNotice file)),
        (tree.perform (builder.build file output)).2) := by
  rw [runWith, run_printing, FileTree.perform_bind]
  rcases tree.perform (builder.build file output) with ⟨_ | _, after⟩ <;> rfl

/-- Without an output, a header is printed. -/
theorem run_generate_none (tree : FileTree) (file : String)
    (unset : builder.config.output.path = none) :
    (runWith builder (.generate file none) : StateM FileTree Report).run tree =
      (.ofResult ((builder.prepared tree file).map Prod.snd), tree) := by
  rw [run_generate, Builder.perform_build, unset]
  rcases builder.prepared tree file with _ | ⟨unit, header⟩ <;> rfl

/-- With an output, all goes well if a header can be prepared and the output can be written. -/
theorem exitCode_generate_some_iff (builder : Builder) (tree : FileTree) (file out : String) :
    ((runWith builder (.generate file (some out)) : StateM FileTree Report).run tree).1.exitCode =
      0 ↔ (builder.prepared tree file).toBool = true ∧ Builder.Writable tree out := by
  rw [run_generate, Report.exitCode_ofResult_iff, Builder.build_succeeds_iff]
  simp

/-- What is written is what would have been printed. -/
theorem readBytes_generate_some {file out : String} (unset : builder.config.output.path = none)
    (succeeds : ((runWith builder (.generate file (some out)) :
      StateM FileTree Report).run tree).1.exitCode = 0) :
    ((runWith builder (.generate file (some out)) : StateM FileTree Report).run tree).2.readBytes
        out =
      .ok ((runWith builder (.generate file none) :
        StateM FileTree Report).run tree).1.output.toUTF8 := by
  rw [run_generate, Report.exitCode_ofResult_iff] at succeeds
  obtain ⟨summary, built⟩ := exists_eq_ok_of_toBool _ succeeds
  obtain ⟨⟨unit, ready, -⟩, -, wrote⟩ := Builder.build_wrote built
  rw [run_generate_none tree file unset, run_generate, ready]
  exact (wrote out rfl).read

theorem run_checkFiles_nil (builder : Builder) (tree : FileTree) :
    (checkFiles builder [] : StateM FileTree Report).run tree = ({}, tree) :=
  rfl

theorem run_checkFiles_cons (builder : Builder) (tree : FileTree) (file : String)
    (rest : List String) :
    (checkFiles builder (file :: rest) : StateM FileTree Report).run tree =
      match builder.prepared tree file with
      | .ok _ =>
          (((checkFiles builder rest : StateM FileTree Report).run tree).1.after
            (file ++ ": OK\n"), tree)
      | .error error => ({ Report.ofError error with failed := [file] }, tree) := by
  have prepares := Builder.perform_headerOfFile builder tree file
  rw [FileTree.perform] at prepares
  rw [checkFiles, StateT.run_bind, prepares]
  cases builder.prepared tree file with
  | error error => rfl
  | ok ready => exact Prod.ext rfl (FileTree.readsOnly_checkFiles builder rest tree)

/-- The files before the first one that fails are reported. -/
theorem output_checkFiles (builder : Builder) (tree : FileTree) (files : List String) :
    ((checkFiles builder files : StateM FileTree Report).run tree).1.output =
      String.join ((files.takeWhile fun file => (builder.prepared tree file).toBool).map
        (· ++ ": OK\n")) := by
  induction files with
  | nil => rfl
  | cons file rest ih =>
      rw [run_checkFiles_cons]
      cases ready : builder.prepared tree file with
      | error error => simp [ready, Except.toBool, Report.ofError]
      | ok prepared => simp [ready, Except.toBool, Report.after, ih]

/-- A check succeeds when no file fails. -/
theorem exitCode_checkFiles_iff (builder : Builder) (tree : FileTree) (files : List String) :
    ((checkFiles builder files : StateM FileTree Report).run tree).1.exitCode = 0 ↔
      ∀ file ∈ files, (builder.prepared tree file).toBool = true := by
  induction files with
  | nil => simp [run_checkFiles_nil]
  | cons file rest ih =>
      rw [run_checkFiles_cons, List.forall_mem_cons]
      cases builder.prepared tree file with
      | error error => simp [Except.toBool, Report.ofError, Report.failureCode]
      | ok prepared => simp [Except.toBool, Report.after, ih]

/-- A single file is reported when its header can be prepared. -/
theorem checkFiles_singleton_iff (builder : Builder) (tree : FileTree) (file : String) :
    ((checkFiles builder [file] : StateM FileTree Report).run tree).1 =
        { output := file ++ ": OK\n" } ↔
      (builder.prepared tree file).toBool = true := by
  rw [run_checkFiles_cons]
  cases builder.prepared tree file with
  | error error => simp [Except.toBool, Report.ofError, Report.failureCode]
  | ok prepared => simp [Except.toBool, Report.after, run_checkFiles_nil]

/-- Checking and dumping change nothing, under any configuration.  Under one that names no output,
printing a header, dumping it and writing it to a file hand out the same text, and do so for the
files that a check accepts; and a check of several files accepts those before the first bad one. -/
theorem commands_agree (tree : FileTree) :
    (∀ config files, (tree.answer (.execute config (.check files))).2 = tree) ∧
    (∀ config file format, (tree.answer (.execute config (.dump file format))).2 = tree) ∧
    ∀ config builder, (tree.perform (Invocation.builderFor config)).1 = .ok builder →
      builder.config.output.path = none →
      let run command := tree.answer (.execute config command)
      let accepts file := (run (.check [file])).1 = { output := file ++ ": OK\n" }
      (∀ file, run (.generate file none) = run (.dump file .header) ∧
        ((run (.generate file none)).1.exitCode = 0 ↔ accepts file)) ∧
      (∀ file out,
        ((run (.generate file (some out))).1.exitCode = 0 ↔
          accepts file ∧ Builder.Writable tree out) ∧
        ((run (.generate file (some out))).1.exitCode = 0 →
          (run (.generate file (some out))).2.readBytes out =
            .ok (run (.generate file none)).1.output.toUTF8)) ∧
      (∀ files,
        (run (.check files)).1.output =
          String.join ((files.takeWhile fun file => accepts file).map (· ++ ": OK\n")) ∧
        ((run (.check files)).1.exitCode = 0 ↔ ∀ file ∈ files, accepts file)) := by
  refine ⟨fun config files => ?_, fun config file format => ?_, ?_⟩
  · have reads (builder : Builder) :
        FileTree.ReadsOnly (runWith builder (.check files) : StateM FileTree Report) :=
      FileTree.readsOnly_checkFiles builder files
    exact FileTree.readsOnly_execute reads tree
  · exact FileTree.readsOnly_execute (FileTree.readsOnly_dump · file format) tree
  intro config builder loaded unset run accepts
  have ran (command : Command) : run command =
      (command.runWith builder : StateM FileTree Report).run tree :=
    FileTree.answer_execute command loaded
  have accepted (file : String) : accepts file ↔ (builder.prepared tree file).toBool = true := by
    rw [← checkFiles_singleton_iff]
    exact Eq.congr_left (congrArg Prod.fst (ran (.check [file])))
  have ran_check (files : List String) :
      run (.check files) = (checkFiles builder files : StateM FileTree Report).run tree :=
    ran (.check files)
  refine ⟨fun file => ⟨?_, ?_⟩, fun file out => ⟨?_, ?_⟩, fun files => ⟨?_, ?_⟩⟩
  · rw [ran, ran, run_generate_none tree file unset, run_dump_header]
  · rw [ran, run_generate_none tree file unset, Report.exitCode_ofResult_iff, accepted]
  · rw [ran, exitCode_generate_some_iff, accepted]
  · rw [ran, ran]
    exact readBytes_generate_some unset
  · rw [ran_check, output_checkFiles]
    simp only [accepted, Bool.decide_eq_true]
  · rw [ran_check, exitCode_checkFiles_iff]
    simp only [accepted]

end Command

/-- A project with a configuration, a good unit and a bad one. -/
def projectTree : FileTree where
  root :=
    [("jtrans.toml", .file "[project]\nname = \"home\"\n".toUTF8),
      ("door.json", .file "[\x7b\"name\": \"Door\"\x7d]".toUTF8),
      ("broken.json", .file "[".toUTF8)]

theorem projectTree_commands_agree :
    let run command := projectTree.answer (.execute (some "jtrans.toml") command)
    run (.generate "door.json" none) = run (.dump "door.json" .header) ∧
    (run (.generate "door.json" (some "out/door.h"))).2.readBytes "out/door.h" =
      .ok (run (.generate "door.json" none)).1.output.toUTF8 ∧
    (run (.check ["door.json", "broken.json"])).1.exitCode ≠ 0 := by
  have loaded : (projectTree.perform (Invocation.builderFor (some "jtrans.toml"))).1 =
      .ok { config := .named "home" } := by
    decide +kernel
  obtain ⟨same, written, checked⟩ :=
    (Command.commands_agree projectTree).2.2 (some "jtrans.toml") _ loaded rfl
  refine ⟨(same "door.json").1, (written "door.json" "out/door.h").2 ?_, fun passed => ?_⟩
  · decide +kernel
  · have accepted := (checked ["door.json", "broken.json"]).2.mp passed "broken.json" (by simp)
    revert accepted
    decide +kernel

end VtableHeader
