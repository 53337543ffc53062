import VtableHeader.Json.Value

/-!
# Writing JSON

Values are written over several lines: every item and member on a line of its
own, two spaces deeper than its container, and an empty array or object on one
line.  Strings escape the quote, the backslash and the controls, and nothing
else.
-/

namespace VtableHeader.Json

/-- The hexadecimal digit of a value below sixteen. -/
def hexDigit (value : Nat) : Char :=
  Nat.digitChar value

/-- The form of one character inside a string. -/
def writeChar (char : Char) : List Char :=
  if char = '"' then ['\\', '"']
  else if char = '\\' then ['\\', '\\']
  else if char = '\x08' then ['\\', 'b']
  else if char = '\x0c' then ['\\', 'f']
  else if char = '\n' then ['\\', 'n']
  else if char = '\r' then ['\\', 'r']
  else if char = '\t' then ['\\', 't']
  else if char.toNat < 0x20 then
    ['\\', 'u', '0', '0', hexDigit (char.toNat / 16), hexDigit (char.toNat % 16)]
  else [char]

/-- A string between its quotes. -/
def writeString (text : String) : List Char :=
  '"' :: text.toList.flatMap writeChar ++ ['"']

/-- A number, digit for digit. -/
def writeNumber (number : Number) : List Char :=
  (if number.negative then ['-'] else []) ++ number.whole ++
    (if number.fraction.isEmpty then [] else '.' :: number.fraction) ++
    match number.exponent with
    | none => []
    | some exponent => 'e' :: (toString exponent).toList

/-- A line break and the indentation of `level`. -/
def lineBreak (level : Nat) : List Char :=
  '\n' :: List.replicate (2 * level) ' '

mutual

/-- A value that begins inside `level` containers. -/
def writeAt (level : Nat) : Json → List Char
  | .null => ['n', 'u', 'l', 'l']
  | .bool true => ['t', 'r', 'u', 'e']
  | .bool false => ['f', 'a', 'l', 's', 'e']
  | .number value => writeNumber value
  | .string text => writeString text
  | .array [] => ['[', ']']
  | .array (first :: others) =>
      '[' :: lineBreak (level + 1) ++ writeAt (level + 1) first ++
        writeItems (level + 1) others ++ lineBreak level ++ [']']
  | .object [] => ['{', '}']
  | .object (first :: others) =>
      '{' :: lineBreak (level + 1) ++ writeMember (level + 1) first ++
        writeMembers (level + 1) others ++ lineBreak level ++ ['}']

/-- The items after the first one, each after a comma. -/
def writeItems (level : Nat) : List Json → List Char
  | [] => []
  | item :: others => ',' :: lineBreak level ++ writeAt level item ++ writeItems level others

/-- The members after the first one, each after a comma. -/
def writeMembers (level : Nat) : List (String × Json) → List Char
  | [] => []
  | member :: others =>
      ',' :: lineBreak level ++ writeMember level member ++ writeMembers level others

/-- A key and its value. -/
def writeMember (level : Nat) : String × Json → List Char
  | (key, value) => writeString key ++ ':' :: ' ' :: writeAt level value

end

/-- The text of a value. -/
def render (json : Json) : String :=
  String.ofList (writeAt 0 json)

end VtableHeader.Json
