/-!
# Tables of characters

A character property of the Unicode standard is held as a list of closed
ranges of code points.  Tables are consulted by a plain linear search: they are
only asked about characters outside the printable part of ASCII, which are rare
in class descriptions.
-/

namespace VtableHeader.Text

/-- A set of characters, given by closed ranges of code points. -/
abbrev CharTable := List (Nat × Nat)

/-- Whether `char` lies in one of the ranges of `table`. -/
def CharTable.holds (table : CharTable) (char : Char) : Bool :=
  table.any fun range => range.1 ≤ char.toNat && char.toNat ≤ range.2

end VtableHeader.Text
