import VtableHeader.Toml.Scalar
import VtableHeader.Toml.Table

/-!
# Reading TOML documents

A document is a sequence of statements, each on lines of its own: a header that
opens a table, or a key with its value.  Values may nest up to a fixed depth, on
which their reading recurs; the loops over items, keys and statements are bounded
by the length of the text.
-/

namespace VtableHeader.Toml

/-- One more than the number of arrays and inline tables that may lie inside one
another, and than the number of parts of a key. -/
def nestingBound : Nat := 80

/-- The characters of a bare key. -/
def isBareKeyChar (char : Char) : Bool :=
  char.isAlphanum || char == '_' || char == '-'

/-- Read one part of a key. -/
def readKeyPart (text : List Char) : Option (String × List Char) :=
  match text with
  | '"' :: _ | '\'' :: _ => readShortString text
  | _ =>
      match text.takeWhile isBareKeyChar with
      | [] => none
      | part => some (String.ofList part, text.dropWhile isBareKeyChar)

/-- Read the parts of a key, at most `bound` of them, with blanks around each. -/
def readKeyParts : Nat → Reader (List String)
  | 0, _ => none
  | bound + 1, text => do
      let (part, rest) ← readKeyPart (skipBlanks text)
      match skipBlanks rest with
      | '.' :: rest => do
          let (parts, rest) ← readKeyParts bound rest
          some (part :: parts, rest)
      | rest => some ([part], rest)

/-- Read a key and the blanks around it. -/
def readKey : Reader (List String) :=
  readKeyParts (nestingBound - 1)

/-- Read a key, the equals sign and the value, and the blanks around them. -/
def readPair (value : Reader Toml) (text : List Char) :
    Option ((List String × Toml) × List Char) := do
  let (keys, rest) ← readKey text
  let (_, rest) ← readMark '=' rest
  let (value, rest) ← value (skipBlanks rest)
  some ((keys, value), skipBlanks rest)

/-- Read what is left of an array from an item on, at most `bound` items.  The
last item may be followed by a comma. -/
def readItems (item : Reader Toml) : Nat → Reader (List Toml)
  | 0, _ => none
  | bound + 1, text => do
      let (first, rest) ← item text
      match skipGaps false rest with
      | ']' :: rest => some ([first], rest)
      | ',' :: rest =>
          match skipGaps false rest with
          | ']' :: rest => some ([first], rest)
          | next => do
              let (others, rest) ← readItems item bound next
              some (first :: others, rest)
      | _ => none

/-- Read an array after its opening bracket. -/
def readArray (item : Reader Toml) (text : List Char) : Option (Toml × List Char) :=
  match skipGaps false text with
  | ']' :: rest => some (.array [], rest)
  | start => do
      let (items, rest) ← readItems item start.length start
      some (.array items, rest)

/-- Read what is left of an inline table from a key on, at most `bound` pairs. -/
def readPairs (value : Reader Toml) : Nat → Reader (List (List String × Toml))
  | 0, _ => none
  | bound + 1, text => do
      let (first, rest) ← readPair value text
      match rest with
      | '}' :: rest => some ([first], rest)
      | ',' :: rest => do
          let (others, rest) ← readPairs value bound rest
          some (first :: others, rest)
      | _ => none

/-- Read an inline table after its opening brace. -/
def readInlineTable (value : Reader Toml) (text : List Char) : Option (Toml × List Char) :=
  match skipBlanks text with
  | '}' :: rest => some (.table .inline [], rest)
  | start => do
      let (pairs, rest) ← readPairs value start.length start
      let table ← inlineTable pairs
      some (table, rest)

/-- Read a value with at most `levels` arrays and inline tables inside one
another. -/
def readValue : Nat → Reader Toml
  | levels, text =>
      match text with
      | '"' :: _ | '\'' :: _ => do
          let (chars, rest) ← readString text
          some (.string chars, rest)
      | '[' :: rest =>
          match levels with
          | 0 => none
          | levels + 1 => readArray (readValue levels) rest
      | '{' :: rest =>
          match levels with
          | 0 => none
          | levels + 1 => readInlineTable (readValue levels) rest
      | _ => readScalar text

/-! ## Statements -/

/-- The document read so far, and the table that keys are added to. -/
structure Progress where
  root : Entries := []
  place : List String := []

/-- Read a header after its first bracket. -/
def readHeader (progress : Progress) : Reader Progress
  | '[' :: rest => do
      let (keys, rest) ← readKey rest
      let (_, rest) ← readMark ']' rest
      let (_, rest) ← readMark ']' rest
      some ({ root := ← appendTable keys progress.root, place := keys }, rest)
  | text => do
      let (keys, rest) ← readKey text
      let (_, rest) ← readMark ']' rest
      some ({ root := ← openTable keys progress.root, place := keys }, rest)

/-- Read a key with its value. -/
def readEntry (progress : Progress) (text : List Char) : Option (Progress × List Char) := do
  let ((keys, value), rest) ← readPair (readValue (nestingBound - 1)) text
  some ({ progress with root := ← insertValue progress.place keys value progress.root }, rest)

/-- Read statements to the end of the text, at most `bound` lines of them. -/
def readStatements : Nat → Progress → List Char → Option Entries
  | 0, _, _ => none
  | bound + 1, progress, text =>
      match skipBlanks text with
      | [] => some progress.root
      | '#' :: rest => do
          let rest ← endLine? ('#' :: rest)
          readStatements bound progress rest
      | '[' :: rest => do
          let (progress, rest) ← readHeader progress rest
          let rest ← endLine? rest
          readStatements bound progress rest
      | start =>
          match lineBreak? start with
          | some rest => readStatements bound progress rest
          | none => do
              let (progress, rest) ← readEntry progress start
              let rest ← endLine? rest
              readStatements bound progress rest

/-- The text without a byte-order mark at its front. -/
def skipByteOrderMark : List Char → List Char
  | '\uFEFF' :: rest => rest
  | text => text

/-- The root table of a document; `none` if the text is not one. -/
def parse? (document : String) : Option Entries :=
  let text := skipByteOrderMark document.toList
  readStatements (text.length + 1) {} text

end VtableHeader.Toml
