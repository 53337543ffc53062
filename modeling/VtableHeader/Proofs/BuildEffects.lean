import VtableHeader.Build
import VtableHeader.Proofs.FileChanges
import VtableHeader.Proofs.Success

/-!
# What a build does to the files

A build first prepares a header: it reads a file, parses the unit in it and generates the header of
the unit.  None of this changes the tree of files, and only a header that is prepared is written.
Writing lets the tree grow above the output and then puts one file there.
-/

namespace VtableHeader

theorem mapError_eq_ok_iff {ε ε' α : Type} {failure : ε → ε'} {result : Except ε α} {answer : α} :
    result.mapError failure = .ok answer ↔ result = .ok answer := by
  cases result <;> constructor <;> intro same <;> cases same <;> rfl

namespace FileTree

/-- What a job answers on a tree, and the tree that it leaves behind. -/
def perform {α : Type} (tree : FileTree) (job : Builder.Job (StateM FileTree) α) :
    Except BuildError α × FileTree :=
  job.run.run tree

variable {α β ε : Type} {tree before after : FileTree}

@[simp]
theorem perform_pure (tree : FileTree) (answer : α) :
    tree.perform (pure answer) = (.ok answer, tree) :=
  rfl

/-- The second job starts with the tree that the first one leaves, unless that one fails. -/
theorem perform_bind (tree : FileTree) (first : Builder.Job (StateM FileTree) α)
    (second : α → Builder.Job (StateM FileTree) β) :
    tree.perform (first >>= second) =
      match tree.perform first with
      | (.ok answer, next) => next.perform (second answer)
      | (.error error, next) => (.error error, next) := by
  simp only [perform, ExceptT.run_bind, StateT.run_bind]
  cases result : StateT.run first.run tree with
  | mk outcome next => cases outcome <;> rfl

/-- A computation leaves the tree as it is. -/
@[simp]
theorem perform_lift (tree : FileTree) (result : Except BuildError α) :
    tree.perform (liftM result) = (result, tree) := by
  cases result <;> rfl

/-- An operation gives its failure a meaning, and changes nothing else. -/
theorem perform_attempt (tree : FileTree) (failure : ε → BuildError)
    (operation : StateM FileTree (Except ε α)) :
    tree.perform (Builder.attempt failure operation) =
      ((operation.run tree).1.mapError failure, (operation.run tree).2) :=
  rfl

/-- The text of a file is read without changing the tree. -/
@[simp]
theorem perform_readText (tree : FileTree) (failure : StorageError → BuildError) (path : String) :
    tree.perform (Builder.attempt failure (Storage.readText path)) =
      ((tree.readText path).mapError failure, tree) :=
  rfl

end FileTree

namespace Builder

variable {tree after : FileTree} {builder : Builder} {input output : String}

/-- The unit in a file. -/
def unitIn (tree : FileTree) (input : String) : Except BuildError ClassUnit := do
  let text ← (tree.readText input).mapError (.unreadable input)
  (ClassUnit.load text).mapError fun _ => .unparsable input

/-- The unit in a file, and the header that is generated for it under the options of the
configuration. -/
def prepared (builder : Builder) (tree : FileTree) (input : String) :
    Except BuildError (ClassUnit × String) := do
  let unit ← unitIn tree input
  let header ← (unit.header builder.config.options).mapError .generation
  return (unit, header)

section Stages

variable {text header : String} {unit : ClassUnit}

/-- A builder generates headers under the options of its configuration. -/
theorem header_eq_ok_iff :
    builder.header unit = .ok header ↔ unit.header builder.config.options = .ok header :=
  mapError_eq_ok_iff

theorem header_of_refused {cause : GenError}
    (refused : unit.header builder.config.options = .error cause) :
    builder.header unit = .error (.generation cause) := by
  rw [Builder.header, refused]
  rfl

theorem unitIn_eq_ok_iff :
    unitIn tree input = .ok unit ↔
      ∃ text, tree.readText input = .ok text ∧ ClassUnit.load text = .ok unit := by
  simp only [unitIn, bind_eq_ok_iff, mapError_eq_ok_iff]

theorem unitIn_of_unreadable {cause : StorageError} (failed : tree.readText input = .error cause) :
    unitIn tree input = .error (.unreadable input cause) := by
  rw [unitIn, failed]
  rfl

theorem unitIn_of_unparsable {cause : ClassUnit.LoadError} (read : tree.readText input = .ok text)
    (failed : ClassUnit.load text = .error cause) :
    unitIn tree input = .error (.unparsable input) := by
  rw [unitIn, read]
  change (ClassUnit.load text).mapError _ = _
  rw [failed]
  rfl

/-- A header is prepared by loading a unit and generating its header. -/
theorem prepared_eq_ok_iff :
    builder.prepared tree input = .ok (unit, header) ↔
      unitIn tree input = .ok unit ∧ unit.header builder.config.options = .ok header := by
  simp only [prepared, bind_eq_ok_iff, mapError_eq_ok_iff, pure, Except.pure, Except.ok.injEq,
    Prod.mk.injEq, exists_eq_right_right]

theorem prepared_of_error {cause : BuildError} (failed : unitIn tree input = .error cause) :
    builder.prepared tree input = .error cause := by
  rw [prepared, failed]
  rfl

theorem prepared_of_refused {cause : GenError} (loaded : unitIn tree input = .ok unit)
    (refused : unit.header builder.config.options = .error cause) :
    builder.prepared tree input = .error (.generation cause) := by
  rw [prepared, loaded]
  change (unit.header builder.config.options).mapError _ >>= _ = _
  rw [refused]
  rfl

end Stages

theorem perform_loadUnit (tree : FileTree) (input : String) :
    tree.perform (loadUnit input) = (unitIn tree input, tree) := by
  rw [loadUnit, FileTree.perform_bind, FileTree.perform_readText, unitIn]
  cases tree.readText input with
  | error cause => rfl
  | ok text =>
      change tree.perform _ = ((ClassUnit.load text).mapError _, tree)
      cases ClassUnit.load text with
      | error cause => rfl
      | ok unit => rfl

theorem perform_headerOfFile (builder : Builder) (tree : FileTree) (input : String) :
    tree.perform (builder.headerOfFile input) =
      ((builder.prepared tree input).map Prod.snd, tree) := by
  rw [headerOfFile, FileTree.perform_bind, perform_loadUnit]
  cases loaded : unitIn tree input with
  | error cause =>
      rw [prepared_of_error loaded]
      rfl
  | ok unit =>
      simp only [FileTree.perform_lift]
      cases generated : unit.header builder.config.options with
      | error cause =>
          rw [header_of_refused generated, prepared_of_refused loaded generated]
          rfl
      | ok header =>
          rw [header_eq_ok_iff.mpr generated, prepared_eq_ok_iff.mpr ⟨loaded, generated⟩]
          rfl

/-- The tree shows the file at the path, and everywhere else what it showed before, but for new
directories above the path. -/
structure Wrote (path : String) (contents : ByteArray) (before after : FileTree) : Prop where
  home : after.workingDirectory = before.workingDirectory
  read : after.readBytes path = .ok contents
  there : after.sight? (before.place path) = some (.file contents)
  elsewhere : ∀ place, place ≠ before.place path →
    FileTree.KeptOrMade (DiskPath.IsAncestor path) before after place

/-- A file that is written after directories above it were made. -/
theorem wrote_of_writeBytes {middle : FileTree} {contents : ByteArray}
    (grown : FileTree.Grown (DiskPath.IsAncestor output) tree middle)
    (written : middle.writeBytes output contents = .ok after) :
    Wrote output contents tree after := by
  have puts := FileTree.puts_of_writeBytes written
  rw [FileTree.place_congr grown.home] at puts
  constructor
  · exact puts.home.trans grown.home
  · exact FileTree.readBytes_of_writeBytes written
  · rw [puts.sights, if_pos rfl]
  · intro place other
    rw [FileTree.KeptOrMade, puts.sights, if_neg other]
    exact grown.sights place

/-- Creating the directory of the output. -/
def prepareDirectory (output : String) : Job (StateM FileTree) Unit :=
  match DiskPath.parent? output with
  | none | some "" => pure ()
  | some directory => attempt (.noDirectory directory) (Storage.createDirectories directory)

theorem writeHeader_eq (header output : String) :
    (writeHeader header output : Job (StateM FileTree) Unit) =
      prepareDirectory output >>= fun _ =>
        attempt (.unwritable output) (Storage.writeText output header) := by
  unfold writeHeader prepareDirectory
  generalize DiskPath.parent? output = above
  split
  case h_1 => rfl
  case h_2 => rfl
  case h_3 => simp

theorem grown_prepareDirectory (tree : FileTree) (output : String) :
    FileTree.Grown (DiskPath.IsAncestor output) tree
      (tree.perform (prepareDirectory output)).2 := by
  unfold prepareDirectory
  split
  case h_1 => exact FileTree.grown_refl tree
  case h_2 => exact FileTree.grown_refl tree
  case h_3 directory _ above =>
      have grown := FileTree.growing_createUpwards directory.length directory tree
      exact grown.mono fun _ higher => .head' above higher

/-- After the directory is there, one write decides. -/
theorem perform_writeHeader_eq (tree : FileTree) (header output : String) :
    tree.perform (writeHeader header output) =
      match tree.perform (prepareDirectory output) with
      | (.error error, middle) => (.error error, middle)
      | (.ok _, middle) =>
          match middle.writeBytes output header.toUTF8 with
          | .error cause => (.error (.unwritable output cause), middle)
          | .ok after => (.ok (), after) := by
  rw [writeHeader_eq, FileTree.perform_bind]
  rcases tree.perform (prepareDirectory output) with ⟨_ | _, middle⟩
  · rfl
  · have ran : (Storage.writeText output header : StateM FileTree _).run middle = _ :=
      FileTree.run_change (·.writeBytes output header.toUTF8) middle
    simp only [FileTree.perform_attempt, ran]
    cases middle.writeBytes output header.toUTF8 <;> rfl

/-- Writing a header fails without touching a file, or puts the header where it belongs. -/
theorem perform_writeHeader (tree : FileTree) (header output : String) :
    (∃ error after, tree.perform (writeHeader header output) = (.error error, after) ∧
        FileTree.Grown (DiskPath.IsAncestor output) tree after) ∨
      ∃ after, tree.perform (writeHeader header output) = (.ok (), after) ∧
        Wrote output header.toUTF8 tree after := by
  rw [perform_writeHeader_eq]
  have grown := grown_prepareDirectory tree output
  rcases directory : tree.perform (prepareDirectory output) with ⟨_ | _, middle⟩
  all_goals rw [directory] at grown
  case error => exact .inl ⟨_, middle, rfl, grown⟩
  case ok =>
    dsimp only
    cases written : middle.writeBytes output header.toUTF8 with
    | error cause => exact .inl ⟨_, middle, rfl, grown⟩
    | ok after => exact .inr ⟨after, rfl, wrote_of_writeBytes grown written⟩

/-- Some text can be written to the path. -/
def Writable (tree : FileTree) (output : String) : Prop :=
  ∃ text, (tree.perform (writeHeader text output)).1 = .ok ()

theorem writeHeader_succeeds_iff (tree : FileTree) (header output : String) :
    (tree.perform (writeHeader header output)).1 = .ok () ↔
      ∃ middle after, tree.perform (prepareDirectory output) = (.ok (), middle) ∧
        middle.writeBytes output header.toUTF8 = .ok after := by
  rw [perform_writeHeader_eq]
  rcases tree.perform (prepareDirectory output) with ⟨_ | _, middle⟩
  · simp only [reduceCtorEq, Prod.mk.injEq, false_and, exists_false]
  · dsimp only
    constructor
    · intro succeeds
      cases written : middle.writeBytes output header.toUTF8 with
      | error cause => simp only [written, reduceCtorEq] at succeeds
      | ok after => exact ⟨middle, after, rfl, written⟩
    · rintro ⟨_, after, ⟨rfl, rfl⟩, written⟩
      rw [written]

/-- Whether a text can be written does not depend on the text. -/
theorem writable_iff (tree : FileTree) (header output : String) :
    Writable tree output ↔ (tree.perform (writeHeader header output)).1 = .ok () := by
  constructor
  · rintro ⟨text, succeeds⟩
    obtain ⟨middle, after, directory, written⟩ := (writeHeader_succeeds_iff _ _ _).mp succeeds
    obtain ⟨position, name, standing, found, looked, free, -⟩ :=
      FileTree.writeBytes_eq_ok_iff.mp written
    exact (writeHeader_succeeds_iff _ _ _).mpr ⟨middle, _, directory,
      FileTree.writeBytes_eq_ok_iff.mpr ⟨position, name, standing, found, looked, free, rfl⟩⟩
  · intro succeeds
    exact ⟨header, succeeds⟩

/-! ## The whole build -/

/-- A build writes what it has prepared, if it is told where. -/
theorem perform_build (builder : Builder) (tree : FileTree) (input : String)
    (output : Option String) :
    tree.perform (builder.build input output) =
      match builder.prepared tree input with
      | .error error => (.error error, tree)
      | .ok (unit, header) =>
          match output <|> builder.config.output.path with
          | none => (.ok { classes := unit.classes.length, output := none, header }, tree)
          | some path =>
              ((tree.perform (writeHeader header path)).1.map fun _ =>
                { classes := unit.classes.length, output := some path, header },
                (tree.perform (writeHeader header path)).2) := by
  rw [build, FileTree.perform_bind, perform_loadUnit]
  cases loaded : unitIn tree input with
  | error cause => rw [prepared_of_error loaded]
  | ok unit =>
      simp only [FileTree.perform_bind, FileTree.perform_lift]
      cases generated : unit.header builder.config.options with
      | error cause => rw [header_of_refused generated, prepared_of_refused loaded generated]
      | ok header =>
          rw [header_eq_ok_iff.mpr generated, prepared_eq_ok_iff.mpr ⟨loaded, generated⟩]
          cases output <|> builder.config.output.path with
          | none => rfl
          | some path =>
              simp only [FileTree.perform_bind]
              rcases tree.perform (writeHeader header path) with ⟨_ | _, after⟩ <;> rfl

/-- A build succeeds when a header can be prepared and can be written where it belongs. -/
theorem build_succeeds_iff (builder : Builder) (tree : FileTree) (input : String)
    (output : Option String) :
    (tree.perform (builder.build input output)).1.toBool = true ↔
      (builder.prepared tree input).toBool = true ∧
        ∀ path, (output <|> builder.config.output.path) = some path → Writable tree path := by
  rw [perform_build]
  rcases builder.prepared tree input with _ | ⟨unit, header⟩
  · simp [Except.toBool]
  · cases output <|> builder.config.output.path with
    | none => simp [Except.toBool]
    | some path =>
        simp only [Option.some.injEq, forall_eq', writable_iff tree header path]
        rcases (tree.perform (writeHeader header path)).1 with _ | ⟨⟩ <;>
          simp [Except.toBool, Except.map]

theorem build_of_error {error : BuildError} (failed : builder.prepared tree input = .error error)
    (output : Option String) :
    tree.perform (builder.build input output) = (.error error, tree) := by
  rw [perform_build, failed]

/-- Where no output is given or configured, nothing is written. -/
theorem build_unwritten {output : Option String}
    (nowhere : (output <|> builder.config.output.path) = none) :
    (tree.perform (builder.build input output)).2 = tree := by
  rw [perform_build, nowhere]
  rcases builder.prepared tree input with _ | ⟨unit, header⟩ <;> rfl

/-- A build that fails may leave new directories above its output. -/
theorem build_grown {output : Option String} {path : String} {error : BuildError}
    (chosen : (output <|> builder.config.output.path) = some path)
    (failed : (tree.perform (builder.build input output)).1 = .error error) :
    FileTree.Grown (DiskPath.IsAncestor path) tree
      (tree.perform (builder.build input output)).2 := by
  rw [perform_build, chosen] at failed ⊢
  revert failed
  rcases builder.prepared tree input with _ | ⟨unit, header⟩
  · exact fun _ => FileTree.grown_refl tree
  · rcases perform_writeHeader tree header path with ⟨_, after, ran, grown⟩ | ⟨after, ran, _⟩
    · exact fun _ => by simpa only [ran] using grown
    · simp [ran, Except.map]

/-- A build that succeeds has written the header that was prepared. -/
theorem build_wrote {output : Option String} {summary : BuildSummary}
    (succeeds : (tree.perform (builder.build input output)).1 = .ok summary) :
    (∃ unit, builder.prepared tree input = .ok (unit, summary.header) ∧
      summary.classes = unit.classes.length) ∧
      summary.output = (output <|> builder.config.output.path) ∧
      ∀ path, (output <|> builder.config.output.path) = some path →
        Wrote path summary.header.toUTF8 tree (tree.perform (builder.build input output)).2 := by
  rw [perform_build] at succeeds ⊢
  cases ready : builder.prepared tree input with
  | error error => simp [ready] at succeeds
  | ok prepared =>
      obtain ⟨unit, header⟩ := prepared
      rw [ready] at succeeds
      cases chosen : output <|> builder.config.output.path with
      | none =>
          rw [chosen] at succeeds
          cases succeeds
          simp
      | some path =>
          rw [chosen] at succeeds
          rcases perform_writeHeader tree header path with ⟨_, after, ran, _⟩ | ⟨after, ran, wrote⟩
          · simp [ran, Except.map] at succeeds
          · simp only [ran] at succeeds
            cases succeeds
            simpa [ran] using wrote

/-- A build fails without touching the tree if its input cannot be read, holds no unit, or holds one
that has no header; otherwise it succeeds if there is no output or the output can be written.
Without an output it does not touch the tree.  If writing fails, no file has changed, and only
directories above the output are new.  If all goes well, the output holds the header that is
generated for the unit in the input, and every other file is what it was. -/
theorem build_touches_only_output (builder : Builder) (tree : FileTree) (input : String)
    (output : Option String) :
    let chosen := output <|> builder.config.output.path
    let result := (tree.perform (builder.build input output)).1
    let after := (tree.perform (builder.build input output)).2
    (∀ cause, tree.readText input = .error cause →
      result = .error (.unreadable input cause) ∧ after = tree) ∧
    (∀ text cause, tree.readText input = .ok text → ClassUnit.load text = .error cause →
      result = .error (.unparsable input) ∧ after = tree) ∧
    (∀ text unit cause, tree.readText input = .ok text → ClassUnit.load text = .ok unit →
      unit.header builder.config.options = .error cause →
        result = .error (.generation cause) ∧ after = tree) ∧
    (∀ text unit header, tree.readText input = .ok text → ClassUnit.load text = .ok unit →
      unit.header builder.config.options = .ok header →
        (result.toBool = true ↔ ∀ path, chosen = some path → Writable tree path)) ∧
    (chosen = none → after = tree) ∧
    (∀ path error, chosen = some path → result = .error error →
      FileTree.Grown (DiskPath.IsAncestor path) tree after) ∧
    (∀ summary, result = .ok summary →
      (∃ text unit, tree.readText input = .ok text ∧ ClassUnit.load text = .ok unit ∧
        unit.header builder.config.options = .ok summary.header ∧
        summary.classes = unit.classes.length) ∧
      summary.output = chosen ∧
      ∀ path, chosen = some path → Wrote path summary.header.toUTF8 tree after) := by
  intro chosen result after
  refine ⟨?_, ?_, ?_, ?_, build_unwritten, fun _ _ => build_grown, ?_⟩
  · intro cause failed
    have refused : builder.prepared tree input = .error (.unreadable input cause) :=
      prepared_of_error (unitIn_of_unreadable failed)
    exact Prod.ext_iff.mp (build_of_error refused output)
  · intro text cause read failed
    have refused : builder.prepared tree input = .error (.unparsable input) :=
      prepared_of_error (unitIn_of_unparsable read failed)
    exact Prod.ext_iff.mp (build_of_error refused output)
  · intro text unit cause read loaded failed
    have refused : builder.prepared tree input = .error (.generation cause) :=
      prepared_of_refused (unitIn_eq_ok_iff.mpr ⟨text, read, loaded⟩) failed
    exact Prod.ext_iff.mp (build_of_error refused output)
  · intro text unit header read loaded generated
    have ready : builder.prepared tree input = .ok (unit, header) :=
      prepared_eq_ok_iff.mpr ⟨unitIn_eq_ok_iff.mpr ⟨text, read, loaded⟩, generated⟩
    have succeeds := build_succeeds_iff builder tree input output
    rw [ready] at succeeds
    exact succeeds.trans (and_iff_right rfl)
  · intro summary succeeds
    obtain ⟨⟨unit, ready, classes⟩, written, wrote⟩ := build_wrote succeeds
    obtain ⟨loaded, generated⟩ := prepared_eq_ok_iff.mp ready
    obtain ⟨text, read, loaded⟩ := unitIn_eq_ok_iff.mp loaded
    exact ⟨⟨text, unit, read, loaded, generated, classes⟩, written, wrote⟩

end Builder

/-- A unit in a file, and no place for its header yet. -/
def sourceTree : FileTree where
  root := [("door.json", .file "[\x7b\"name\": \"Door\"\x7d]".toUTF8)]

/-- The header of the unit. -/
def doorHeader : String :=
  "#pragma once\n\n" ++
    "#include \"java_lang.h\"\n\n" ++
    "using namespace java::lang;\n\n" ++
    "struct __Door;\n" ++
    "struct __Door_VT;\n" ++
    "typedef __Door* Door;\n\n" ++
    "struct __Door \x7b\n" ++
    "    __Door_VT* __vptr;\n" ++
    "    __Door();\n" ++
    "    static Class __class();\n" ++
    "    static __Door_VT __vtable;\n" ++
    "\x7d;\n\n" ++
    "struct __Door_VT \x7b\n" ++
    "    Class __is_a;\n\n" ++
    "    __Door_VT()\n" ++
    "    : __is_a(__Door::__class())\n" ++
    "    \x7b\x7d\n" ++
    "\x7d;\n\n"

theorem sourceTree_build_touches_only_output :
    ∃ after, sourceTree.perform (Builder.build {} "door.json" (some "out/include/door.h")) =
        (.ok { classes := 1, output := some "out/include/door.h", header := doorHeader }, after) ∧
      Builder.Wrote "out/include/door.h" doorHeader.toUTF8 sourceTree after := by
  have succeeds : (sourceTree.perform
      (Builder.build {} "door.json" (some "out/include/door.h"))).1 =
      .ok { classes := 1, output := some "out/include/door.h", header := doorHeader } := by
    decide +kernel
  obtain ⟨-, -, -, -, -, -, success⟩ :=
    Builder.build_touches_only_output {} sourceTree "door.json" (some "out/include/door.h")
  revert succeeds success
  generalize sourceTree.perform (Builder.build {} "door.json" (some "out/include/door.h")) = outcome
  intro succeeds success
  obtain ⟨result, after⟩ := outcome
  obtain rfl : result = _ := succeeds
  obtain ⟨-, -, wrote⟩ := success _ rfl
  exact ⟨after, rfl, wrote _ rfl⟩

-- A path through a missing directory and back out of it: the directory is made, and stays when the
-- rest of the path turns out to be a file.
example :
    (sourceTree.perform (Builder.build {} "door.json" (some "out/../door.json/door.h"))).1 =
      .error (.noDirectory "out/../door.json" .alreadyExists) := by
  decide +kernel

end VtableHeader
