import Mathlib.Data.List.TakeWhile
import VtableHeader.Config
import VtableHeader.Proofs.CheckedClass
import VtableHeader.Proofs.FileChanges

/-!
# The configured output

A configuration file may say where the header goes.  A relative path is meant from the directory of
the file, so loading puts the parent of the path of the file in front of it; a path without a parent
would lose it.  Such a path has nothing but empty pieces and dots, and names the root or nothing at
all, never a file, so no configuration that is loaded loses its output.

The rest is about places: the parent of a path names the directory that holds what the path names,
and a joined path names what its second part names from there.
-/

namespace VtableHeader

namespace DiskPath

theorem slash_notMem_of_mem_pieces {path piece : String} (member : piece ∈ pieces path) :
    '/' ∉ piece.toList := by
  obtain ⟨part, partMem, rfl⟩ := List.mem_map.mp member
  rw [String.toList_ofList]
  exact notMem_of_mem_splitOn partMem

theorem pieces_append_slash (first second : String) :
    pieces (first ++ "/" ++ second) = pieces first ++ pieces second := by
  unfold pieces
  rw [← List.map_append, ← List.splitOn_append_cons_self]
  simp

theorem pieces_of_slash_notMem {word : String} (single : '/' ∉ word.toList) :
    pieces word = [word] := by
  rw [pieces, List.splitOn_eq_singleton single]
  simp

/-- Names without a slash are the pieces of the path that they are put together to. -/
theorem pieces_intercalate {first : String} {others : List String}
    (single : ∀ name ∈ first :: others, '/' ∉ name.toList) :
    pieces ("/".intercalate (first :: others)) = first :: others :=
  map_splitOn_intercalate (by simp) (by simp) single

/-- An absolute path begins with an empty piece and has another one. -/
theorem isAbsolute_iff {path first : String} {others : List String}
    (split : pieces path = first :: others) :
    isAbsolute path = true ↔ first = "" ∧ others ≠ [] := by
  unfold pieces at split
  unfold isAbsolute
  cases chars : path.toList with
  | nil =>
      rw [chars] at split
      obtain ⟨-, rfl⟩ := List.cons.inj split
      simp
  | cons char rest =>
      rw [chars, List.splitOn_cons_eq_if_modifyHead] at split
      by_cases slash : char = '/'
      · subst slash
        obtain ⟨rfl, rfl⟩ := List.cons.inj split
        simp
      · rw [if_neg (by simpa using slash)] at split
        obtain ⟨part, parts, whole⟩ := List.exists_cons_of_ne_nil (List.splitOn_ne_nil '/' rest)
        rw [whole] at split
        obtain ⟨rfl, rfl⟩ := List.cons.inj split
        simp [slash]

theorem exists_pieces_eq_cons (path : String) : ∃ first others, pieces path = first :: others := by
  apply List.exists_cons_of_ne_nil
  simp [pieces]

/-- A path without a parent has silent pieces only. -/
theorem isSilent_of_parent?_eq_none {path : String} (orphan : parent? path = none) :
    ∀ piece ∈ pieces path, isSilent piece = true := by
  obtain ⟨first, others, split⟩ := exists_pieces_eq_cons path
  rw [parent?, split] at orphan
  dsimp only at orphan
  split at orphan
  case h_1 silent =>
      split at orphan
      case isTrue root =>
          have front : isSilent first = true := by
            rw [isSilent, root, Bool.true_or]
          rw [split, List.forall_mem_cons]
          exact ⟨front, fun piece member =>
            List.dropWhile_eq_nil_iff.mp silent piece (List.mem_reverse.mpr member)⟩
      case isFalse => cases orphan
  case h_2 => split at orphan <;> cases orphan

/-! ## Places of paths -/

/-- Silent pieces at the end of a path lead no further. -/
theorem foldl_descend_dropSilent (start pieces : List String) :
    (pieces.reverse.dropWhile isSilent).reverse.foldl descend start =
      pieces.foldl descend start := by
  rw [List.foldl_reverse, ← List.foldr_reverse]
  induction pieces.reverse with
  | nil => rfl
  | cons last pieces ih =>
      by_cases silent : isSilent last = true
      · simpa [descend, silent] using ih
      · simp [silent]

end DiskPath

namespace FileTree

open DiskPath

variable {tree : FileTree} {path directory name : String}

/-- The place of the working directory, where relative paths start. -/
def home (tree : FileTree) : List String :=
  tree.workingDirectory.foldl descend []

theorem place_empty (tree : FileTree) : tree.place "" = tree.home := by
  simp [place, pieces, isAbsolute, descend, isSilent, home]

theorem place_of_relative (tree : FileTree) (relative : isAbsolute path = false) :
    tree.place path = (pieces path).foldl descend tree.home := by
  rw [place, relative]
  rfl

/-- A path that begins alike starts at the same place. -/
theorem place_eq_of_isAbsolute (tree : FileTree) {other : String}
    (alike : isAbsolute other = isAbsolute path) :
    tree.place other =
      (pieces other).foldl descend (if isAbsolute path then [] else tree.home) := by
  rw [place, alike]
  rfl

/-- A path that is continued starts where it started. -/
theorem isAbsolute_append (nonempty : directory ≠ "") (rest : String) :
    isAbsolute (directory ++ rest) = isAbsolute directory := by
  unfold isAbsolute
  cases chars : directory.toList with
  | nil => exact absurd (String.toList_eq_nil_iff.mp chars) nonempty
  | cons char others => simp [chars]

/-- A relative path that is joined to a directory names what it names from there. -/
theorem place_join (tree : FileTree) (directory : String) {output : String}
    (relative : isAbsolute output = false) :
    tree.place (join directory output) = (pieces output).foldl descend (tree.place directory) := by
  by_cases empty : directory = ""
  · subst empty
    rw [place_empty, ← place_of_relative tree relative]
    simp [join]
  · -- A slash goes between the two, unless the directory ends in one.
    obtain ⟨rest, front, continued, joined, leads⟩ :
        ∃ rest front, join directory output = directory ++ rest ∧
          join directory output = front ++ "/" ++ output ∧
          ∀ start, (pieces directory).foldl descend start = (pieces front).foldl descend start := by
      by_cases slash : directory.toList.getLast? = some '/'
      · obtain ⟨chars, ends⟩ := List.getLast?_eq_some_iff.mp slash
        have whole : directory = String.ofList chars ++ "/" := by
          rw [← String.toList_inj, ends]
          simp
        have parts : pieces directory = pieces (String.ofList chars) ++ [""] := by
          have split := pieces_append_slash (String.ofList chars) ""
          rwa [String.append_empty, ← whole] at split
        refine ⟨output, String.ofList chars, ?_, ?_, fun start => ?_⟩
        · simp [join, relative, empty, slash]
        · rw [← whole]
          simp [join, relative, empty, slash]
        · rw [parts, List.foldl_append]
          rfl
      · refine ⟨"/" ++ output, directory, ?_, ?_, fun _ => rfl⟩
        · simp [join, relative, empty, slash, String.append_assoc]
        · simp [join, relative, empty, slash]
    have start : isAbsolute (join directory output) = isAbsolute directory := by
      rw [continued, isAbsolute_append empty]
    rw [place_eq_of_isAbsolute tree start, joined, pieces_append_slash, List.foldl_append, ← leads,
      ← place_eq_of_isAbsolute tree rfl]

/-- The parent of a path with several pieces starts where the path starts, and leads as far as the
pieces before the last one that counts. -/
theorem exists_parent?_eq {first final : String} {others higher : List String}
    (split : pieces path = first :: others)
    (remaining : others.reverse.dropWhile isSilent = final :: higher) :
    ∃ directory, parent? path = some directory ∧ isAbsolute directory = isAbsolute path ∧
      ∀ start, (pieces directory).foldl descend start =
        (first :: higher.reverse).foldl descend start := by
  have kept : ∀ piece ∈ higher, piece ∈ others := fun piece member =>
    List.mem_reverse.mp ((List.dropWhile_suffix _).subset
      (remaining ▸ List.mem_cons_of_mem final member))
  have further : others ≠ [] := by
    rintro rfl
    simp at remaining
  have absolute : isAbsolute path = true ↔ first = "" := by
    simp [isAbsolute_iff split, further]
  have dropped (start : List String) : (first :: higher.reverse).foldl descend start =
      (first :: (higher.dropWhile isSilent).reverse).foldl descend start := by
    rw [List.foldl_cons, ← foldl_descend_dropSilent, List.reverse_reverse]
    rfl
  rw [parent?, split]
  simp only [remaining, dropped]
  cases between : (higher.dropWhile isSilent).reverse with
  | nil =>
      by_cases root : first = ""
      · subst root
        refine ⟨"/", rfl, ?_, fun start => rfl⟩
        rw [absolute.mpr rfl]
        rfl
      · have single := slash_notMem_of_mem_pieces (split ▸ List.mem_cons_self : first ∈ pieces path)
        have alone := pieces_of_slash_notMem single
        refine ⟨first, by simp [root], ?_, fun start => by rw [alone]⟩
        rw [Bool.eq_iff_iff, isAbsolute_iff alone, absolute]
        simp [root]
  | cons next more =>
      have single : ∀ piece ∈ first :: next :: more, '/' ∉ piece.toList := by
        rw [← between]
        intro piece member
        have among : piece ∈ pieces path := by
          rw [split]
          rcases List.mem_cons.mp member with rfl | later
          · exact List.mem_cons_self
          · exact List.mem_cons_of_mem _ (kept piece
              ((List.dropWhile_suffix _).subset (List.mem_reverse.mp later)))
        exact slash_notMem_of_mem_pieces among
      have alone := pieces_intercalate single
      refine ⟨_, rfl, ?_, fun start => by rw [alone]⟩
      rw [Bool.eq_iff_iff, isAbsolute_iff alone, absolute]
      simp

/-- The parent names the directory in which the last piece that counts is looked up. -/
theorem place_parent (tree : FileTree) {above : List String}
    (found : parent? path = some directory)
    (last : (pieces path).reverse.dropWhile isSilent = name :: above) :
    tree.place path = descend (tree.place directory) name := by
  obtain ⟨first, others, split⟩ := exists_pieces_eq_cons path
  have leads : tree.place path =
      (pieces path).foldl descend (if isAbsolute path then [] else tree.home) :=
    place_eq_of_isAbsolute tree rfl
  rw [← foldl_descend_dropSilent, last, List.reverse_cons, List.foldl_append] at leads
  suffices reached : above.reverse.foldl descend (if isAbsolute path then [] else tree.home) =
      tree.place directory by
    rw [leads, reached]
    rfl
  rw [split, List.reverse_cons, List.dropWhile_append] at last
  cases remaining : others.reverse.dropWhile isSilent with
  | nil =>
      -- All that follows the first piece is silent, so the parent is the working directory.
      rw [parent?, split] at found
      simp only [remaining] at found
      by_cases root : first = ""
      · simp [root] at found
      · obtain rfl : "" = directory := by simpa [root] using found
        have relative : isAbsolute path = false := by
          simp [← Bool.not_eq_true, isAbsolute_iff split, root]
        obtain rfl : above = [] := by
          rw [remaining] at last
          simp only [List.isEmpty_nil, if_true, List.dropWhile_cons] at last
          split at last
          · simp at last
          · exact (List.cons.inj last).2.symm
        rw [relative, place_empty]
        rfl
  | cons final higher =>
      obtain ⟨parent, isParent, alike, same⟩ := exists_parent?_eq split remaining
      obtain rfl : parent = directory := Option.some.inj (isParent.symm.trans found)
      rw [remaining] at last
      obtain rfl : higher ++ [first] = above := (List.cons.inj last).2
      rw [place_eq_of_isAbsolute tree alike, same, List.reverse_append]
      rfl

/-- A file that can be read stands in the directory that the parent of its path names. -/
theorem exists_parent_of_readText {text : String} (read : tree.readText path = .ok text) :
    ∃ directory name, parent? path = some directory ∧
      tree.place path = tree.place directory ++ [name] := by
  obtain ⟨contents, bytes, -⟩ := bind_eq_ok_iff.mp read
  obtain ⟨position, name, target, -⟩ := readBytes_eq_ok_iff.mp bytes
  rw [target_eq, check_bind_eq_ok_iff, bind_eq_ok_iff] at target
  obtain ⟨-, start, -, approached⟩ := target
  obtain ⟨above, remaining, single, double, -, -⟩ := Position.approach_eq_entry_iff.mp approached
  have named : name ≠ "" := by
    have kept := List.head?_dropWhile_not (· == "") (pieces path).reverse
    simpa [remaining] using kept
  have loud : isSilent name = false := by simp [isSilent, named, single]
  have last : (pieces path).reverse.dropWhile isSilent = name :: above := by
    have silent : ∀ piece ∈ (pieces path).reverse.takeWhile (· == ""), isSilent piece = true := by
      intro piece member
      have empty := List.mem_takeWhile_imp member
      rw [isSilent, empty, Bool.true_or]
    rw [← List.takeWhile_append_dropWhile (p := (· == "")) (l := (pieces path).reverse), remaining,
      List.dropWhile_append_of_pos silent, List.dropWhile_cons_of_neg (by simp [loud])]
  cases found : parent? path with
  | none =>
      have member : name ∈ (pieces path).reverse :=
        (List.dropWhile_suffix _).subset (last ▸ List.mem_cons_self)
      have silent := isSilent_of_parent?_eq_none found name (List.mem_reverse.mp member)
      rw [loud] at silent
      cases silent
  | some directory =>
      refine ⟨directory, name, rfl, ?_⟩
      rw [place_parent tree found last]
      simp [descend, loud, double]

end FileTree

namespace Config

open DiskPath

/-- A configuration file is read, and what it says is seen from the directory of the file. -/
theorem run_ofFile (tree : FileTree) (path : String) :
    (ofFile path : StateM FileTree (Except ConfigError Config)).run tree =
      (match tree.readText path with
        | .error cause => .error (.unreadable cause)
        | .ok document => (ofToml document).map (·.relativeTo path), tree) := by
  have reading : (Storage.readText path : StateM FileTree _).run tree =
      (tree.readText path, tree) := rfl
  rw [ofFile, StateT.run_bind, reading]
  cases tree.readText path <;> rfl

/-- The configured output is never lost.  A configuration that is loaded from a file says what the
document in the file says, but for the path of the output.  It has one exactly if the document has
one, an absolute path as it stands and a relative one behind the parent of the path of the file,
where it names what it names from the directory that holds the file. -/
theorem output_kept {tree after : FileTree} {path : String} {config : Config}
    (loaded : (ofFile path : StateM FileTree _).run tree = (.ok config, after)) :
    after = tree ∧ ∃ document given directory name,
      tree.readText path = .ok document ∧ ofToml document = .ok given ∧
      parent? path = some directory ∧ tree.place path = tree.place directory ++ [name] ∧
      config.project = given.project ∧ config.runtime = given.runtime ∧
      config.output.indentWidth = given.output.indentWidth ∧
      config.output.path.isSome = given.output.path.isSome ∧
      ∀ output, given.output.path = some output →
        (isAbsolute output = true → config.output.path = some output) ∧
        (isAbsolute output = false →
          config.output.path = some (join directory output) ∧
          tree.place (join directory output) =
            (pieces output).foldl descend (tree.place directory)) := by
  rw [run_ofFile] at loaded
  obtain ⟨result, rfl⟩ := Prod.mk.inj loaded
  refine ⟨rfl, ?_⟩
  cases read : tree.readText path with
  | error cause => simp [read] at result
  | ok document =>
      rw [read] at result
      cases accepted : ofToml document with
      | error cause => simp [accepted, Except.map] at result
      | ok given =>
          obtain rfl : given.relativeTo path = config := by
            simpa [accepted, Except.map] using result
          obtain ⟨directory, name, found, stands⟩ := FileTree.exists_parent_of_readText read
          refine ⟨document, given, directory, name, rfl, accepted, found, stands, ?_⟩
          unfold relativeTo
          cases configured : given.output.path with
          | none => simp
          | some output =>
              simp only [found, true_and, Option.isSome_some, Option.some.injEq, forall_eq']
              constructor
              · intro absolute
                simp [join, absolute]
              · exact tree.place_join directory

end Config

/-- A document that puts the output beside the directory of its file. -/
def configuredDocument : String :=
  "[project]\nname = \"p\"\n[output]\npath = \"../out.h\"\n"

/-- The document in a directory of its own. -/
def configuredTree : FileTree where
  root := [("app", .directory [("conf.toml", .file configuredDocument.toUTF8)])]

/-- The path of the output is seen from that directory, however the path of the file is spelled. -/
theorem configuredTree_output_kept :
    ∃ config, (Config.ofFile "app//./conf.toml" : StateM FileTree _).run configuredTree =
        (.ok config, configuredTree) ∧
      config.output.path = some "app/../out.h" ∧
      configuredTree.place "app/../out.h" = ["out.h"] := by
  have read : configuredTree.readText "app//./conf.toml" = .ok configuredDocument := by
    decide +kernel
  have accepted : Config.ofToml configuredDocument =
      .ok { Config.named "p" with output := { path := some "../out.h" } } := by
    decide +kernel
  have parent : DiskPath.parent? "app//./conf.toml" = some "app" := by decide +kernel
  have loaded := Config.run_ofFile configuredTree "app//./conf.toml"
  simp only [read, accepted, Except.map] at loaded
  obtain ⟨-, _, given, directory, _, same, known, above, -, -, -, -, -, kept⟩ :=
    Config.output_kept loaded
  obtain rfl := Except.ok.inj (read.symm.trans same)
  obtain rfl := Except.ok.inj (accepted.symm.trans known)
  obtain rfl := Option.some.inj (parent.symm.trans above)
  obtain ⟨path, place⟩ := (kept "../out.h" rfl).2 (by decide)
  exact ⟨_, loaded, path, place.trans (by decide +kernel)⟩

end VtableHeader
