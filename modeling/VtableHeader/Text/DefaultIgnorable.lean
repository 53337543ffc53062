import VtableHeader.Text.CharTable

/-!
# Characters that are not shown

The characters with the property Default_Ignorable_Code_Point in version 17.0 of
the Unicode standard.  They leave no trace when they are printed; most of them
are controls or marks, but the fillers for missing letters of a syllable are
letters by their category.
-/

namespace VtableHeader.Text

/-- Characters that are not shown. -/
def defaultIgnorable : CharTable :=
  [(0xad, 0xad), (0x34f, 0x34f), (0x61c, 0x61c), (0x115f, 0x1160), (0x17b4, 0x17b5),
    (0x180b, 0x180f), (0x200b, 0x200f), (0x202a, 0x202e), (0x2060, 0x206f), (0x3164, 0x3164),
    (0xfe00, 0xfe0f), (0xfeff, 0xfeff), (0xffa0, 0xffa0), (0xfff0, 0xfff8), (0x1bca0, 0x1bca3),
    (0x1d173, 0x1d17a), (0xe0000, 0xe0fff)]

/-- Whether `char` is left out when it is printed. -/
def isDefaultIgnorable (char : Char) : Bool :=
  defaultIgnorable.holds char

end VtableHeader.Text
