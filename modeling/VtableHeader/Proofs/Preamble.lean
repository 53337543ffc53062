import VtableHeader.Config
import VtableHeader.Proofs.Placement
import VtableHeader.Proofs.WellFormedClass

/-!
# The preamble of a configured header

A header begins with the lines of its preamble: the guard, the include line of the runtime
header and, if the runtime has a namespace, a directive that opens it.  The generator writes
what its options say between fixed words, so these are the lines that are read only if the name
of the runtime header can stand between quotes on one line and the namespaces are identifiers.

Loading a configuration refuses blank settings and nothing else of this kind.  It is said here
which of the accepted configurations give a preamble that can be read back.
-/

namespace VtableHeader

/-- The lines of a text; behind a last line break stands an empty one. -/
def textLines (text : String) : List String :=
  (text.toList.splitOn '\n').map String.ofList

/-- Lines, each with its line break. -/
def linesText (lines : List String) : String :=
  String.join (lines.map (· ++ "\n"))

theorem toList_linesText_cons (line : String) (rest : List String) :
    (linesText (line :: rest)).toList = line.toList ++ '\n' :: (linesText rest).toList := by
  simp [linesText]

/-- Lines that hold no line break are read back. -/
theorem textLines_linesText {lines : List String}
    (unbroken : ∀ line ∈ lines, '\n' ∉ line.toList) :
    textLines (linesText lines) = lines ++ [""] := by
  induction lines with
  | nil => simp [textLines, linesText]
  | cons line rest ih =>
      rcases List.forall_mem_cons.mp unbroken with ⟨here, others⟩
      have tail := ih others
      unfold textLines at tail ⊢
      rw [toList_linesText_cons, List.splitOn_append_cons_self_of_not_mem here, List.map_cons,
        String.ofList_toList, tail, List.cons_append]

theorem textLines_injective {first second : String} (same : textLines first = textLines second) :
    first = second := by
  have chars : first.toList.splitOn '\n' = second.toList.splitOn '\n' :=
    List.map_injective_iff.mpr (fun _ _ => String.ofList_injective) same
  have joined := congrArg (List.intercalate ['\n']) chars
  rw [List.intercalate_splitOn, List.intercalate_splitOn] at joined
  exact String.toList_injective joined

/-- The lines of a preamble: the guard, the runtime header, and its namespace if it has one. -/
def preambleLines (header : String) (segments : List String) : List String :=
  ["#pragma once", "", "#include \"" ++ header ++ "\"", ""] ++
    if segments.isEmpty then []
    else ["using namespace " ++ "::".intercalate segments ++ ";", ""]

theorem preambleText_eq (options : Options) :
    preambleText options =
      linesText (preambleLines options.runtimeHeader options.runtimeNamespace) := by
  apply String.toList_injective
  unfold preambleText preambleLines
  split <;> simp [linesText]

/-- A new generator has written the preamble and nothing else. -/
theorem Generator.render_start (options : Options) :
    (start options).render =
      linesText (preambleLines options.runtimeHeader options.runtimeNamespace) := by
  rw [← preambleText_eq]
  exact (holds_start options).rendered

/-- What can stand between the quotes of an include line. -/
def Quotable (header : String) : Prop :=
  ∀ char ∈ header.toList, char ∉ ['"', '\n', '\r']

instance (header : String) : Decidable (Quotable header) :=
  List.decidableBAll _ header.toList

/-- A preamble that can be read back: the header can be quoted, and every namespace is named by
an identifier. -/
structure Preamble where
  header : String
  segments : List String
  quotable : Quotable header
  identifiers : ∀ segment ∈ segments, MatchesIdentifier segment

/-- The lines of a preamble. -/
def Preamble.lines (preamble : Preamble) : List String :=
  preambleLines preamble.header preamble.segments

/-- Identifiers joined by the scope operator. -/
def SpellsScopes (text : String) : Prop :=
  ∃ names, names ≠ [] ∧ (∀ name ∈ names, MatchesIdentifier name) ∧ text = "::".intercalate names

theorem MatchesIdentifier.spellsScopes {text : String} (identifier : MatchesIdentifier text) :
    SpellsScopes text :=
  ⟨[text], by simp, by simpa using identifier, by simp⟩

section Identifiers

variable {name : String} {char : Char}

theorem MatchesIdentifier.isIdentifierPart (identifier : MatchesIdentifier name)
    (member : char ∈ name.toList) : isIdentifierPart char = true :=
  isIdentifierPart_of_mem (isIdentifier_iff_matches.mpr identifier) member

theorem MatchesIdentifier.toList_ne_nil (identifier : MatchesIdentifier name) :
    name.toList ≠ [] := by
  intro empty
  have shape := isIdentifier_iff_matches.mpr identifier
  simp [isIdentifier, empty] at shape

/-- What is neither part of an identifier nor a colon is not part of joined identifiers. -/
theorem notMem_intercalate_of_identifiers {names : List String}
    (identifiers : ∀ name ∈ names, MatchesIdentifier name)
    (foreign : isIdentifierPart char = false) (noColon : char ≠ ':') :
    char ∉ ("::".intercalate names).toList := by
  induction names with
  | nil => simp
  | cons name rest ih =>
      rcases List.forall_mem_cons.mp identifiers with ⟨here, others⟩
      have absent : char ∉ name.toList := fun member => by
        simp [here.isIdentifierPart member] at foreign
      cases rest with
      | nil => simpa using absent
      | cons other rest =>
          have later := ih others
          have between : char ∉ "::".toList := by simpa using noColon
          rw [String.intercalate_cons_cons, String.toList_append, String.toList_append,
            List.mem_append, List.mem_append]
          simp only [absent, between, later, or_self, not_false_eq_true]

end Identifiers

/-! ## Reading scopes -/

section Scopes

variable {names : List String}

theorem MatchesIdentifier.colon_notMem {name : String} (identifier : MatchesIdentifier name) :
    ':' ∉ name.toList :=
  colon_notMem_of_isIdentifier (isIdentifier_iff_matches.mpr identifier)

/-- A text that begins like an identifier and goes on with a colon begins with the whole
identifier. -/
theorem exists_append_of_append_colon {name segment : String} {rest others : List Char}
    (identifier : MatchesIdentifier name)
    (same : segment.toList ++ ':' :: rest = name.toList ++ ':' :: others) :
    ∃ extra, segment.toList = name.toList ++ extra ∧ extra ++ ':' :: rest = ':' :: others := by
  rcases List.append_eq_append_iff.mp same with ⟨extra, chars, behind⟩ | ⟨extra, chars, behind⟩
  · cases extra with
    | nil => exact ⟨[], by simp [chars], behind⟩
    | cons first extra =>
        cases behind
        exact absurd (by simp [chars]) identifier.colon_notMem
  · exact ⟨extra, chars, behind.symm⟩

/-- Joined identifiers do not begin with a colon. -/
theorem intercalate_ne_colon_cons {next : String} {others : List String}
    (identifier : MatchesIdentifier next) (rest : List Char) :
    ("::".intercalate (next :: others)).toList ≠ ':' :: rest := by
  intro colon
  rcases List.exists_cons_of_ne_nil identifier.toList_ne_nil with ⟨first, tail, chars⟩
  have begins : ∃ behind, ("::".intercalate (next :: others)).toList = next.toList ++ behind := by
    cases others with
    | nil => exact ⟨[], by simp⟩
    | cons other others =>
        rw [String.intercalate_cons_cons, String.append_assoc, String.toList_append]
        exact ⟨_, rfl⟩
  rcases begins with ⟨behind, begins⟩
  rw [begins, chars] at colon
  cases colon
  exact absurd (by simp [chars]) identifier.colon_notMem

/-- Where joined identifiers have a scope operator, some of them are joined before it and the
others behind it. -/
theorem exists_split_of_intercalate_eq {segment rest : String}
    (identifiers : ∀ name ∈ names, MatchesIdentifier name)
    (joined : segment ++ "::" ++ rest = "::".intercalate names) :
    ∃ front back, front ≠ [] ∧ back ≠ [] ∧ names = front ++ back ∧
      segment = "::".intercalate front ∧ rest = "::".intercalate back := by
  induction names generalizing segment with
  | nil => simp at joined
  | cons name others ih =>
      rcases List.forall_mem_cons.mp identifiers with ⟨here, later⟩
      cases others with
      | nil =>
          rw [String.intercalate_singleton] at joined
          exact absurd (by simp [← joined]) here.colon_notMem
      | cons next others =>
          rw [String.intercalate_cons_cons] at joined
          have chars : segment.toList ++ ':' :: ':' :: rest.toList =
              name.toList ++ ':' :: ':' :: ("::".intercalate (next :: others)).toList := by
            have operator : "::".toList = [':', ':'] := by simp
            have same := congrArg String.toList joined
            simpa only [String.toList_append, List.append_assoc, operator, List.cons_append,
              List.nil_append] using same
          rcases exists_append_of_append_colon here chars with ⟨extra, begins, behind⟩
          -- What the segment has beyond the first identifier is nothing, or starts with the
          -- scope operator: a single colon would be followed by a third one.
          match extra with
          | [] =>
              have same : segment = name := String.toList_injective (by simpa using begins)
              have last : rest = "::".intercalate (next :: others) :=
                String.toList_injective (by simpa using behind)
              exact ⟨[name], next :: others, by simp, by simp, rfl, by simpa using same, last⟩
          | [colon] =>
              simp only [List.cons_append, List.nil_append, List.cons.injEq] at behind
              exact absurd behind.2.2.symm (intercalate_ne_colon_cons (later next (by simp)) _)
          | colon :: second :: extra =>
              simp only [List.cons_append, List.cons.injEq] at behind
              rcases behind with ⟨rfl, rfl, behind⟩
              have inner : String.ofList extra ++ "::" ++ rest =
                  "::".intercalate (next :: others) :=
                String.toList_injective (by simpa using behind)
              rcases ih later inner with
                ⟨front, back, frontNonempty, backNonempty, split, spelled, last⟩
              refine ⟨name :: front, back, by simp, backNonempty, by simp [split], ?_, last⟩
              rw [String.intercalate_cons_of_ne_nil frontNonempty, ← spelled]
              exact String.toList_injective (by simpa using begins)

theorem spellsScopes_of_intercalate_eq {segments : List String}
    (identifiers : ∀ name ∈ names, MatchesIdentifier name) (nonempty : names ≠ [])
    (joined : "::".intercalate segments = "::".intercalate names) :
    ∀ segment ∈ segments, SpellsScopes segment := by
  induction segments generalizing names with
  | nil => simp
  | cons segment rest ih =>
      cases rest with
      | nil =>
          rw [String.intercalate_singleton] at joined
          simpa using ⟨names, nonempty, identifiers, joined⟩
      | cons next rest =>
          rw [String.intercalate_cons_cons] at joined
          rcases exists_split_of_intercalate_eq identifiers joined with
            ⟨front, back, frontNonempty, backNonempty, rfl, spelled, later⟩
          rcases List.forall_mem_append.mp identifiers with ⟨frontNames, backNames⟩
          exact List.forall_mem_cons.mpr
            ⟨⟨front, frontNonempty, frontNames, spelled⟩, ih backNames backNonempty later⟩

/-- Segments that spell scopes are joined to identifiers. -/
theorem exists_intercalate_eq_of_spellsScopes {segments : List String}
    (spelled : ∀ segment ∈ segments, SpellsScopes segment) :
    ∃ names, (names = [] ↔ segments = []) ∧ (∀ name ∈ names, MatchesIdentifier name) ∧
      "::".intercalate segments = "::".intercalate names := by
  induction segments with
  | nil => exact ⟨[], by simp⟩
  | cons segment rest ih =>
      rcases List.forall_mem_cons.mp spelled with ⟨⟨front, frontNonempty, frontNames, rfl⟩, others⟩
      rcases ih others with ⟨back, empty_iff, backNames, joined⟩
      refine ⟨front ++ back, by simp [frontNonempty],
        List.forall_mem_append.mpr ⟨frontNames, backNames⟩, ?_⟩
      by_cases last : rest = []
      · rw [last, empty_iff.mpr last, List.append_nil, String.intercalate_singleton]
      · rw [String.intercalate_cons_of_ne_nil last, joined,
          String.intercalate_append_of_ne_nil frontNonempty (mt empty_iff.mp last)]

end Scopes

/-- What stands behind the closing quote of the include line. -/
def afterHeader (segments : List String) : String :=
  "\n\n" ++ if segments.isEmpty then ""
    else "using namespace " ++ "::".intercalate segments ++ ";\n\n"

theorem toList_linesText_preambleLines (header : String) (segments : List String) :
    (linesText (preambleLines header segments)).toList =
      "#pragma once\n\n#include \"".toList ++
        (header.toList ++ '"' :: (afterHeader segments).toList) := by
  unfold preambleLines afterHeader
  split <;> simp [linesText]

theorem afterHeader_eq_iff {first second : List String} :
    afterHeader first = afterHeader second ↔
      (first = [] ↔ second = []) ∧ "::".intercalate first = "::".intercalate second := by
  unfold afterHeader
  rw [String.append_right_inj]
  cases first <;> cases second <;> simp [← String.toList_inj]

namespace Preamble

variable (preamble : Preamble)

theorem quote_notMem_afterHeader : '"' ∉ (afterHeader preamble.segments).toList := by
  have absent : '"' ∉ ("::".intercalate preamble.segments).toList :=
    notMem_intercalate_of_identifiers preamble.identifiers (by decide) (by decide)
  unfold afterHeader
  split
  · simp
  · simpa using absent

/-- Every line of a preamble is one line. -/
theorem lineBreak_notMem {line : String} (member : line ∈ preamble.lines) :
    '\n' ∉ line.toList := by
  have quoted : '\n' ∉ preamble.header.toList := fun inside =>
    preamble.quotable _ inside (by simp)
  have joined : '\n' ∉ ("::".intercalate preamble.segments).toList :=
    notMem_intercalate_of_identifiers preamble.identifiers (by decide) (by decide)
  rcases List.mem_append.mp member with fixed | directive
  · simp only [List.mem_cons, List.not_mem_nil, or_false] at fixed
    rcases fixed with rfl | rfl | rfl | rfl <;> simp [quoted]
  · split at directive
    · cases directive
    · simp only [List.mem_cons, List.not_mem_nil, or_false] at directive
      rcases directive with rfl | rfl
      · simpa using joined
      · simp

/-- A text has the lines of a preamble when it consists of them. -/
theorem textLines_eq_iff {text : String} :
    textLines text = preamble.lines ++ [""] ↔ text = linesText preamble.lines := by
  have read := textLines_linesText fun _ member => preamble.lineBreak_notMem member
  constructor
  · intro same
    exact textLines_injective (same.trans read.symm)
  · rintro rfl
    exact read

/-- What a preamble says can be read from its text, up to how the scopes are divided. -/
theorem linesText_eq_iff {header : String} {segments : List String} :
    linesText (preambleLines header segments) = linesText preamble.lines ↔
      header = preamble.header ∧ (segments = [] ↔ preamble.segments = []) ∧
        "::".intercalate segments = "::".intercalate preamble.segments := by
  have quoteless : '"' ∉ preamble.header.toList := fun inside =>
    preamble.quotable _ inside (by simp)
  rw [← afterHeader_eq_iff, ← String.toList_inj, Preamble.lines, toList_linesText_preambleLines,
    toList_linesText_preambleLines, List.append_right_inj, eq_comm,
    List.append_cons_inj_of_notMem quoteless preamble.quote_notMem_afterHeader]
  simp only [String.toList_inj, true_and, eq_comm]

end Preamble

/-- Lines that are written for a header and segments are those of a preamble with the same
segments when the header can be quoted and the segments are identifiers. -/
theorem exists_preamble_iff (header : String) (segments : List String) :
    (∃ preamble : Preamble, preamble.segments = segments ∧
      textLines (linesText (preambleLines header segments)) = preamble.lines ++ [""]) ↔
      Quotable header ∧ ∀ segment ∈ segments, MatchesIdentifier segment := by
  simp only [Preamble.textLines_eq_iff, Preamble.linesText_eq_iff]
  constructor
  · rintro ⟨preamble, rfl, rfl, _⟩
    exact ⟨preamble.quotable, preamble.identifiers⟩
  · rintro ⟨quotable, identifiers⟩
    exact ⟨⟨header, segments, quotable, identifiers⟩, rfl, rfl, Iff.rfl, rfl⟩

/-- They are those of any preamble when the header can be quoted and the segments spell scopes. -/
theorem exists_readable_iff (header : String) (segments : List String) :
    (∃ preamble : Preamble,
      textLines (linesText (preambleLines header segments)) = preamble.lines ++ [""]) ↔
      Quotable header ∧ ∀ segment ∈ segments, SpellsScopes segment := by
  simp only [Preamble.textLines_eq_iff, Preamble.linesText_eq_iff]
  constructor
  · rintro ⟨preamble, rfl, empty_iff, joined⟩
    refine ⟨preamble.quotable, fun segment member => ?_⟩
    have nonempty : preamble.segments ≠ [] := mt empty_iff.mpr (List.ne_nil_of_mem member)
    exact spellsScopes_of_intercalate_eq preamble.identifiers nonempty joined segment member
  · rintro ⟨quotable, spelled⟩
    rcases exists_intercalate_eq_of_spellsScopes spelled with
      ⟨names, empty_iff, identifiers, joined⟩
    exact ⟨⟨header, names, quotable, identifiers⟩, rfl, empty_iff.symm, joined⟩

/-! ## Configurations -/

namespace Config

variable {config : Config}

/-- What is refused about the settings of a document. -/
theorem validate_eq_ok_iff :
    config.validate = .ok () ↔
      Text.isBlank config.project.name = false ∧ Text.isBlank config.runtime.header = false ∧
        (∀ segment ∈ config.runtime.segments, Text.isBlank segment = false) ∧
        0 < config.output.indentWidth ∧ config.output.indentWidth ≤ maxIndentWidth := by
  unfold validate
  rw [refused_eq_ok_iff, refused_eq_ok_iff, refused_eq_ok_iff, refused_eq_ok_iff]
  simp only [Bool.not_eq_true, List.any_eq_false, not_or, Nat.not_lt, and_true,
    Nat.pos_iff_ne_zero, ne_eq]

theorem ofToml_eq_ok_iff {document : String} :
    ofToml document = .ok config ↔
      (Toml.parse? document).bind ofEntries? = some config ∧ config.validate = .ok () := by
  unfold ofToml
  cases (Toml.parse? document).bind ofEntries? with
  | none => simp [throw, throwThe, MonadExceptOf.throw]
  | some found =>
      simp only [Option.some.injEq]
      constructor
      · intro loaded
        cases valid : found.validate with
        | error fault =>
            rw [valid] at loaded
            cases loaded
        | ok answer =>
            rw [valid] at loaded
            cases loaded
            exact ⟨rfl, valid⟩
      · rintro ⟨rfl, valid⟩
        rw [valid]
        rfl

/-- The preamble of an accepted document.  It is written from the settings as they are, of which
only blank ones have been refused.  So its lines are those of a preamble with the configured
segments exactly when the header can be quoted and each segment is an identifier, and those of
some preamble exactly when the segments spell scopes. -/
theorem preamble_readable_iff (document : String) {config : Config}
    (accepted : ofToml document = .ok config) :
    let written := (Generator.start config.options).render
    written = linesText (preambleLines config.runtime.header config.runtime.segments) ∧
    (Text.isBlank config.runtime.header = false ∧
      ∀ segment ∈ config.runtime.segments, Text.isBlank segment = false) ∧
    ((∃ preamble : Preamble, preamble.segments = config.runtime.segments ∧
      textLines written = preamble.lines ++ [""]) ↔
        Quotable config.runtime.header ∧
          ∀ segment ∈ config.runtime.segments, MatchesIdentifier segment) ∧
    ((∃ preamble : Preamble, textLines written = preamble.lines ++ [""]) ↔
      Quotable config.runtime.header ∧
        ∀ segment ∈ config.runtime.segments, SpellsScopes segment) := by
  intro written
  have render : written =
      linesText (preambleLines config.runtime.header config.runtime.segments) :=
    Generator.render_start config.options
  have valid := validate_eq_ok_iff.mp (ofToml_eq_ok_iff.mp accepted).2
  refine ⟨render, ⟨valid.2.1, valid.2.2.1⟩, ?_, ?_⟩
  · rw [render]
    exact exists_preamble_iff _ _
  · rw [render]
    exact exists_readable_iff _ _

end Config

/-- A document with two namespaces in one segment. -/
def scopedDocument : String :=
  "[project]\nname = \"p\"\n" ++
    "[runtime]\nheader = \"rt/lang.h\"\nnamespace = [\"java::lang\", \"util\"]\n"

/-- The preamble of the document can be read, but its segments are not the configured ones. -/
theorem scopedDocument_readable :
    ∃ config, Config.ofToml scopedDocument = .ok config ∧
      (∃ preamble : Preamble,
        textLines (Generator.start config.options).render = preamble.lines ++ [""]) ∧
      ¬ ∃ preamble : Preamble, preamble.segments = config.runtime.segments ∧
        textLines (Generator.start config.options).render = preamble.lines ++ [""] := by
  have accepted : Config.ofToml scopedDocument =
      .ok { Config.named "p" with runtime := ⟨"rt/lang.h", ["java::lang", "util"]⟩ } := by
    decide +kernel
  rcases Config.preamble_readable_iff scopedDocument accepted with ⟨_, _, configured, readable⟩
  refine ⟨_, accepted, readable.mpr ⟨by decide, ?_⟩, ?_⟩
  · have java : SpellsScopes "java::lang" := ⟨["java", "lang"], by decide, by decide, by decide⟩
    have util : MatchesIdentifier "util" := by decide
    simpa using ⟨java, util.spellsScopes⟩
  · rw [configured]
    decide

/-- A document that puts a quote into the name of the runtime header. -/
def quotingDocument : String :=
  "[project]\nname = \"p\"\n[runtime]\nheader = \"a\\\"b\"\n"

/-- The document is accepted, and its preamble cannot be read. -/
theorem quotingDocument_unreadable :
    ∃ config, Config.ofToml quotingDocument = .ok config ∧
      ¬ ∃ preamble : Preamble,
        textLines (Generator.start config.options).render = preamble.lines ++ [""] := by
  have accepted : Config.ofToml quotingDocument =
      .ok { Config.named "p" with runtime := { header := "a\"b" } } := by
    decide +kernel
  refine ⟨_, accepted, ?_⟩
  rw [Generator.render_start]
  intro readable
  have quotable := ((exists_readable_iff _ _).mp readable).1
  exact absurd quotable (by decide)

end VtableHeader
