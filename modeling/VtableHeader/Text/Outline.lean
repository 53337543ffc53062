/-!
# Indented outlines

An outline shows a tree of records, lists and atoms over several lines.  Every
item stands on lines of its own, one level deeper than what holds it, and ends
in a comma.  An outline is kept as its lines, so that nesting is just
indentation of the inner lines.
-/

namespace VtableHeader.Text

/-- The lines of an outline, from the top. -/
abbrev Outline := List String

namespace Outline

/-- One level of indentation. -/
def margin : String := "    "

/-- An item that fits on one line. -/
def atom (text : String) : Outline := [text]

/-- Put `label` in front of the first line. -/
def labelled (label : String) : Outline → Outline
  | [] => [label]
  | first :: rest => (label ++ first) :: rest

/-- End the last line with `mark`. -/
def ended (mark : String) : Outline → Outline
  | [] => []
  | [last] => [last ++ mark]
  | line :: rest => line :: ended mark rest

/-- One level deeper, with the comma that follows every item. -/
def nested (outline : Outline) : Outline :=
  (outline.ended ",").map (margin ++ ·)

/-- Items between an opening and a closing line. -/
def enclosed (opening closing : String) (items : List Outline) : Outline :=
  [opening] ++ items.flatMap nested ++ [closing]

/-- A list; an empty one stays on its line. -/
def list (items : List Outline) : Outline :=
  if items.isEmpty then atom "[]" else enclosed "[" "]" items

/-- A record with named fields. -/
def record (name : String) (fields : List (String × Outline)) : Outline :=
  enclosed (name ++ " \x7b") "\x7d" (fields.map fun field => labelled (field.1 ++ ": ") field.2)

/-- A value that may be missing. -/
def optional : Option Outline → Outline
  | none => atom "None"
  | some item => enclosed "Some(" ")" [item]

/-- The text of an outline, without a line break at the end. -/
def render (outline : Outline) : String :=
  "\n".intercalate outline

end Outline

end VtableHeader.Text
