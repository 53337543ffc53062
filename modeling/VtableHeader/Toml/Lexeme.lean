import VtableHeader.Numeral.Digits

/-!
# Blanks, comments and strings of TOML

A reader takes something off the front of a text and returns it with the rest, or
refuses the text.  Lines end in a line feed, with or without a carriage return
before it; a carriage return alone is refused everywhere.  Strings come in four
forms: between double quotes with escapes or between single quotes without, each
on one line or, with the quotes tripled, on several.
-/

namespace VtableHeader.Toml

/-- A function that reads from the front of a text and returns the rest of it. -/
abbrev Reader (α : Type) := List Char → Option (α × List Char)

/-- The blanks inside a line. -/
def isBlank (char : Char) : Bool :=
  char == ' ' || char == '\t'

/-- The text from its first character that is not blank. -/
def skipBlanks (text : List Char) : List Char :=
  text.dropWhile isBlank

/-- The characters that comments and strings may hold: tabs and all but
controls. -/
def isVisible (char : Char) : Bool :=
  char == '\t' || (0x20 ≤ char.toNat && char.toNat != 0x7f)

/-- The text after a line break at its front. -/
def lineBreak? : List Char → Option (List Char)
  | '\n' :: rest => some rest
  | '\r' :: '\n' :: rest => some rest
  | _ => none

/-- The text after a comment at its front, if there is one. -/
def skipComment : List Char → List Char
  | '#' :: rest => rest.dropWhile isVisible
  | text => text

/-- The text after what is left of a line, which may only be blanks and a
comment. -/
def endLine? (text : List Char) : Option (List Char) :=
  match skipComment (skipBlanks text) with
  | [] => some []
  | rest => lineBreak? rest

/-- The text after blanks, line breaks and comments.  The flag tells whether the
text begins inside a comment. -/
def skipGaps : Bool → List Char → List Char
  | _, [] => []
  | _, '\r' :: rest =>
      match rest with
      | '\n' :: rest => skipGaps false rest
      | _ => '\r' :: rest
  | inComment, char :: rest =>
      if char = '\n' then skipGaps false rest
      else if inComment then
        if isVisible char then skipGaps true rest else char :: rest
      else if char = '#' then skipGaps true rest
      else if isBlank char then skipGaps false rest
      else char :: rest

/-- Read exactly `count` hexadecimal digits as the code point of a character. -/
def readCodePoint (count : Nat) : Reader Char
  | text =>
      let digits := text.take count
      let value := Numeral.ofDigits 16 digits
      if digits.length = count ∧ digits.all (Numeral.isDigitOf 16) ∧ value.isValidChar then
        some (Char.ofNat value, text.drop count)
      else none

/-- Read what follows a backslash. -/
def readEscape : Reader Char
  | [] => none
  | char :: rest =>
      match char with
      | 'b' => some ('\x08', rest)
      | 't' => some ('\t', rest)
      | 'n' => some ('\n', rest)
      | 'f' => some ('\x0c', rest)
      | 'r' => some ('\r', rest)
      | '"' => some ('"', rest)
      | '\\' => some ('\\', rest)
      | 'u' => readCodePoint 4 rest
      | 'U' => readCodePoint 8 rest
      | _ => none

/-- Read the characters of a string with escapes up to its closing quote, at most
`bound` of them. -/
def readBasicChars : Nat → Reader (List Char)
  | 0, _ => none
  | _ + 1, [] => none
  | bound + 1, char :: rest =>
      if char = '"' then some ([], rest)
      else if char = '\\' then do
        let (char, rest) ← readEscape rest
        let (chars, rest) ← readBasicChars bound rest
        some (char :: chars, rest)
      else if isVisible char then do
        let (chars, rest) ← readBasicChars bound rest
        some (char :: chars, rest)
      else none

/-- Read the characters of a string without escapes up to its closing quote. -/
def readLiteralChars : Reader (List Char)
  | [] => none
  | char :: rest =>
      if char = '\'' then some ([], rest)
      else if isVisible char then do
        let (chars, rest) ← readLiteralChars rest
        some (char :: chars, rest)
      else none

/-- The text after a line break at its front, if there is one. -/
def trimLineBreak (text : List Char) : List Char :=
  (lineBreak? text).getD text

/-- The text after a backslash that ends its line, from the next character that
is neither a blank nor a line break. -/
def joinedLine? (text : List Char) : Option (List Char) :=
  (lineBreak? (skipBlanks text)).map fun rest => skipMargins rest
where
  /-- The text after blanks and line breaks. -/
  skipMargins : List Char → List Char
    | [] => []
    | '\r' :: rest =>
        match rest with
        | '\n' :: rest => skipMargins rest
        | _ => '\r' :: rest
    | char :: rest =>
        if char = '\n' ∨ isBlank char then skipMargins rest else char :: rest

/-- Read the characters of a string over several lines up to its closing quotes,
at most `bound` of them.  One or two quotes may stand in the text, also right
before the closing ones; line breaks become line feeds. -/
def readLongChars (quote : Char) : Nat → Reader (List Char)
  | 0, _ => none
  | _ + 1, [] => none
  | bound + 1, char :: rest =>
      if char = quote then
        let run := ((char :: rest).takeWhile (· == quote)).length
        if 3 ≤ run then
          let extra := min (run - 3) 2
          some (List.replicate extra quote, (char :: rest).drop (3 + extra))
        else do
          let (chars, rest) ← readLongChars quote bound rest
          some (char :: chars, rest)
      else if char = '\\' ∧ quote = '"' then
        match joinedLine? rest with
        | some rest => readLongChars quote bound rest
        | none => do
            let (char, rest) ← readEscape rest
            let (chars, rest) ← readLongChars quote bound rest
            some (char :: chars, rest)
      else
        match lineBreak? (char :: rest) with
        | some rest => do
            let (chars, rest) ← readLongChars quote bound rest
            some ('\n' :: chars, rest)
        | none =>
            if isVisible char then do
              let (chars, rest) ← readLongChars quote bound rest
              some (char :: chars, rest)
            else none

/-- Turn the characters that were read into a string. -/
def asString (result : Option (List Char × List Char)) : Option (String × List Char) :=
  result.map fun (chars, rest) => (String.ofList chars, rest)

/-- Read a string on one line, in either kind of quotes. -/
def readShortString : Reader String
  | '"' :: rest => asString (readBasicChars rest.length rest)
  | '\'' :: rest => asString (readLiteralChars rest)
  | _ => none

/-- Read a string in any of the four forms. -/
def readString : Reader String
  | '"' :: '"' :: '"' :: rest =>
      let text := trimLineBreak rest
      asString (readLongChars '"' text.length text)
  | '\'' :: '\'' :: '\'' :: rest =>
      let text := trimLineBreak rest
      asString (readLongChars '\'' text.length text)
  | text => readShortString text

end VtableHeader.Toml
