import VtableHeader.Text.DefaultIgnorable
import VtableHeader.Text.GraphemeExtend
import VtableHeader.Text.Unprintable

/-!
# Quoted text

Strings are shown between double quotes, in a form that is safe on a terminal:
what cannot be printed, would not be seen, or would attach to its neighbour, is
written as its code point in braces, and the common controls have short escapes.
A single quote stands for itself.
-/

namespace VtableHeader.Text

/-- The escape that names `char` by its code point, in lower-case hexadecimal. -/
def codePointEscape (char : Char) : String :=
  "\\u\x7b" ++ String.ofList (Nat.toDigits 16 char.toNat) ++ "\x7d"

/-- The voiced and semi-voiced marks of halfwidth katakana.  They extend the letter
before them, but take a place of their own. -/
def isSpacingSoundMark (char : Char) : Bool :=
  char == '\uff9e' || char == '\uff9f'

/-- Whether `char` would change the look of its neighbour. -/
def attaches (char : Char) : Bool :=
  extendsGrapheme char && !isSpacingSoundMark char

/-- Whether `char` can be read off where it is printed. -/
def isLegible (char : Char) : Bool :=
  isPrintable char && !isDefaultIgnorable char && !attaches char

/-- The form of one character between quotes. -/
def quotedChar (char : Char) : String :=
  if char = '\x00' then "\\0"
  else if char = '\t' then "\\t"
  else if char = '\r' then "\\r"
  else if char = '\n' then "\\n"
  else if char = '"' then "\\\""
  else if char = '\\' then "\\\\"
  else if isLegible char then char.toString
  else codePointEscape char

/-- `text` between double quotes. -/
def quoted (text : String) : String :=
  "\"" ++ String.join (text.toList.map quotedChar) ++ "\""

/-- A list of texts on one line, each of them quoted. -/
def quotedList (texts : List String) : String :=
  "[" ++ ", ".intercalate (texts.map quoted) ++ "]"

end VtableHeader.Text
