import VtableHeader.Json.Value

/-!
# Reading JSON

A reader takes one value off the front of a text and returns it with the rest.
Reading is strict: no byte-order mark, no comments, no controls inside strings,
no numbers out of range, and at most `nestingLimit` arrays and objects inside one
another.  A fault is either a text that ends too early or one that breaks the
grammar; whichever is met first from the left is reported.

Recursion into nested values is on the number of levels still allowed.  The loops
over items, members and string characters take at least one character each time,
so all of them share one bound, the length of the whole text, which is measured
once.
-/

namespace VtableHeader.Json

/-- Why a text is not JSON. -/
inductive Fault where
  /-- The text ends inside a value. -/
  | incomplete
  /-- The text breaks the grammar. -/
  | malformed
  deriving DecidableEq, Repr

/-- How closely values are read.  Skimming checks the grammar only, for values
that nobody looks at: surrogates need not pair and numbers may be of any size. -/
inductive Care where
  | full
  | skim
  deriving DecidableEq, Repr

/-- A function that reads from the front of a text and returns the rest of it. -/
abbrev Reader (α : Type) := List Char → Except Fault (α × List Char)

/-- How many arrays and objects may lie inside one another. -/
def nestingLimit : Nat := 127

/-- The four blanks of the grammar. -/
def isBlank (char : Char) : Bool :=
  char == ' ' || char == '\n' || char == '\t' || char == '\r'

/-- The text from its first character that is not blank. -/
def skipBlanks (text : List Char) : List Char :=
  text.dropWhile isBlank

/-- Read the letters of `word`, then answer `value`. -/
def readWord {α : Type} (value : α) : List Char → Reader α
  | [], text => .ok (value, text)
  | _ :: _, [] => .error .incomplete
  | expected :: word, char :: text =>
      if char = expected then readWord value word text else .error .malformed

/-- Read one or more digits. -/
def readDigits (text : List Char) : Except Fault (List Char × List Char) :=
  match text.takeWhile Char.isDigit with
  | [] => .error (if text.isEmpty then .incomplete else .malformed)
  | digits => .ok (digits, text.dropWhile Char.isDigit)

/-- Read the digits before the point: a zero alone, or digits that start with
another one. -/
def readWhole : Reader (List Char)
  | '0' :: rest =>
      match rest with
      | next :: _ => if next.isDigit then .error .malformed else .ok (['0'], rest)
      | [] => .ok (['0'], [])
  | text => readDigits text

/-- Read the point and the digits after it, if there is a point. -/
def readFraction : Reader (List Char)
  | '.' :: rest => readDigits rest
  | text => .ok ([], text)

/-- Read the digits of an exponent after its sign. -/
def readExponentDigits (sign : Int) (text : List Char) : Except Fault (Option Int × List Char) := do
  let (digits, rest) ← readDigits text
  return (some (sign * Numeral.ofDigits 10 digits), rest)

/-- Read the exponent, if there is one. -/
def readExponent : Reader (Option Int)
  | [] => .ok (none, [])
  | char :: rest =>
      if char = 'e' ∨ char = 'E' then
        match rest with
        | '-' :: rest => readExponentDigits (-1) rest
        | '+' :: rest => readExponentDigits 1 rest
        | rest => readExponentDigits 1 rest
      else .ok (none, char :: rest)

/-- Read a number after its sign. -/
def readNumber (care : Care) (negative : Bool) (text : List Char) :
    Except Fault (Json × List Char) := do
  let (whole, rest) ← readWhole text
  let (fraction, rest) ← readFraction rest
  let (exponent, rest) ← readExponent rest
  let number : Number := { negative, whole, fraction, exponent }
  if care = .skim ∨ number.isFinite then return (.number number, rest)
  else throw .malformed

/-- The number that four hexadecimal digits spell.  The text is too short when
fewer than four bytes of it are left. -/
def readHex4 : Reader Nat
  | text =>
      match text with
      | a :: b :: c :: d :: rest =>
          if [a, b, c, d].all (Numeral.isDigitOf 16) then
            .ok (Numeral.ofDigits 16 [a, b, c, d], rest)
          else .error .malformed
      | short =>
          if (String.ofList short).utf8ByteSize < 4 then .error .incomplete else .error .malformed

/-- Whether `unit` is the first half of a surrogate pair. -/
def isHighSurrogate (unit : Nat) : Bool :=
  0xd800 ≤ unit && unit < 0xdc00

/-- Whether `unit` is the second half of a surrogate pair. -/
def isLowSurrogate (unit : Nat) : Bool :=
  0xdc00 ≤ unit && unit < 0xe000

/-- Read the second half of the surrogate pair that `high` begins. -/
def readLowSurrogate (high : Nat) : Reader Char
  | [] => .error .incomplete
  | ['\\'] => .error .incomplete
  | '\\' :: 'u' :: rest => do
      let (low, rest) ← readHex4 rest
      if isLowSurrogate low then
        return (Char.ofNat (0x10000 + (high - 0xd800) * 0x400 + (low - 0xdc00)), rest)
      else throw .malformed
  | _ => .error .malformed

/-- Read the digits of a `\u` escape, and the second half of a surrogate pair. -/
def readUnicode (care : Care) (text : List Char) : Except Fault (Char × List Char) := do
  let (unit, rest) ← readHex4 text
  if care = .skim then return (Char.ofNat unit, rest)
  else if isLowSurrogate unit then throw .malformed
  else if isHighSurrogate unit then readLowSurrogate unit rest
  else return (Char.ofNat unit, rest)

/-- Read what follows a backslash inside a string. -/
def readEscape (care : Care) : Reader Char
  | [] => .error .incomplete
  | char :: rest =>
      match char with
      | '"' => .ok ('"', rest)
      | '\\' => .ok ('\\', rest)
      | '/' => .ok ('/', rest)
      | 'b' => .ok ('\x08', rest)
      | 'f' => .ok ('\x0c', rest)
      | 'n' => .ok ('\n', rest)
      | 'r' => .ok ('\r', rest)
      | 't' => .ok ('\t', rest)
      | 'u' => readUnicode care rest
      | _ => .error .malformed

/-- Read the characters of a string up to its closing quote, at most `bound` of
them. -/
def readChars (care : Care) : Nat → Reader (List Char)
  | 0, _ => .error .incomplete
  | _ + 1, [] => .error .incomplete
  | bound + 1, char :: rest =>
      if char = '"' then .ok ([], rest)
      else if char = '\\' then do
        let (char, rest) ← readEscape care rest
        let (chars, rest) ← readChars care bound rest
        return (char :: chars, rest)
      else if char.toNat < 0x20 then .error .malformed
      else do
        let (chars, rest) ← readChars care bound rest
        return (char :: chars, rest)

/-- Read a string of at most `bound` characters after its opening quote. -/
def readString (care : Care) (bound : Nat) (text : List Char) :
    Except Fault (String × List Char) := do
  let (chars, rest) ← readChars care bound text
  return (String.ofList chars, rest)

/-! ## Arrays and objects -/

/-- Read what is left of an array from an item on, at most `bound` items; `item`
reads the item at a position. -/
def readItems (item : Nat → Reader Json) : Nat → Nat → Reader (List Json)
  | 0, _, _ => .error .incomplete
  | bound + 1, position, text => do
      let (first, rest) ← item position text
      match skipBlanks rest with
      | [] => throw .incomplete
      | ']' :: rest => return ([first], rest)
      | ',' :: rest =>
          match skipBlanks rest with
          | [] => throw .incomplete
          | ']' :: _ => throw .malformed
          | next => do
              let (others, rest) ← readItems item bound (position + 1) next
              return (first :: others, rest)
      | _ => throw .malformed

/-- Read an array of at most `bound` items after its opening bracket. -/
def readArray (bound : Nat) (item : Nat → Reader Json) (text : List Char) :
    Except Fault (Json × List Char) :=
  match skipBlanks text with
  | [] => .error .incomplete
  | ']' :: rest => .ok (.array [], rest)
  | start => do
      let (items, rest) ← readItems item bound 0 start
      return (.array items, rest)

/-- Read one member of an object from its key on; the key has at most `bound`
characters, and `value` reads the value of a key. -/
def readMember (care : Care) (bound : Nat) (value : String → Reader Json) (text : List Char) :
    Except Fault ((String × Json) × List Char) :=
  match text with
  | [] => .error .incomplete
  | '"' :: rest => do
      let (key, rest) ← readString care bound rest
      match skipBlanks rest with
      | [] => throw .incomplete
      | ':' :: rest => do
          let (json, rest) ← value key (skipBlanks rest)
          return ((key, json), rest)
      | _ => throw .malformed
  | _ => .error .malformed

/-- Read what is left of an object from a key on, at most `count` members. -/
def readMembers (care : Care) (bound : Nat) (value : String → Reader Json) :
    Nat → Reader (List (String × Json))
  | 0, _ => .error .incomplete
  | count + 1, text => do
      let (first, rest) ← readMember care bound value text
      match skipBlanks rest with
      | [] => throw .incomplete
      | '}' :: rest => return ([first], rest)
      | ',' :: rest => do
          let (others, rest) ← readMembers care bound value count (skipBlanks rest)
          return (first :: others, rest)
      | _ => throw .malformed

/-- Read an object of at most `bound` members after its opening brace. -/
def readObject (care : Care) (bound : Nat) (value : String → Reader Json) (text : List Char) :
    Except Fault (Json × List Char) :=
  match skipBlanks text with
  | [] => .error .incomplete
  | '}' :: rest => .ok (.object [], rest)
  | start => do
      let (members, rest) ← readMembers care bound value bound start
      return (.object members, rest)

/-- Read a value that is not nested, by its first character. -/
def readScalar (care : Care) (bound : Nat) : Reader Json
  | [] => .error .incomplete
  | char :: rest =>
      match char with
      | 'n' => readWord .null ['u', 'l', 'l'] rest
      | 't' => readWord (.bool true) ['r', 'u', 'e'] rest
      | 'f' => readWord (.bool false) ['a', 'l', 's', 'e'] rest
      | '-' => readNumber care true rest
      | '"' => do
          let (text, rest) ← readString care bound rest
          return (.string text, rest)
      | _ => if char.isDigit then readNumber care false (char :: rest) else .error .malformed

/-- Read a value with at most `levels` arrays and objects inside one another. -/
def readValue (care : Care) (bound : Nat) : Nat → Reader Json
  | 0, text => readScalar care bound (skipBlanks text)
  | levels + 1, text =>
      match skipBlanks text with
      | '[' :: rest => readArray bound (fun _ => readValue care bound levels) rest
      | '{' :: rest => readObject care bound (fun _ => readValue care bound levels) rest
      | scalar => readScalar care bound scalar

/-! ## Selective reading -/

/-- Read a value in full, from a text of at most `bound` characters. -/
def readFull (bound : Nat) : Reader Json :=
  readValue .full bound nestingLimit

/-- Read over a value of any depth, checking its grammar only. -/
def skimValue (bound : Nat) : Reader Json :=
  readValue .skim bound bound

/-- Read an array whose items `item` reads; any other value is read in full. -/
def readListOf (bound : Nat) (item : Reader Json) (text : List Char) :
    Except Fault (Json × List Char) :=
  match skipBlanks text with
  | '[' :: rest => readArray bound (fun _ => item) rest
  | other => readFull bound other

/-- Read a record, as an object or as an array of its leading values.  Each known
member is read by its own reader, and the values of unknown members are
skimmed. -/
def readRecord (bound : Nat) (fields : List (String × Reader Json)) (text : List Char) :
    Except Fault (Json × List Char) :=
  match skipBlanks text with
  | '{' :: rest =>
      readObject .full bound (fun key => (fields.lookup key).getD (skimValue bound)) rest
  | '[' :: rest =>
      readArray bound
        (fun position => ((fields[position]?).map Prod.snd).getD (readFull bound)) rest
  | other => readFull bound other

end VtableHeader.Json
