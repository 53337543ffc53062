import VtableHeader.Text.CharTable

/-!
# Blank text

A name counts as missing when nothing is left of it after trimming blanks.
Blanks are the characters with the Unicode property White_Space: among them are
the next-line control, the no-break space and the ideographic space, but neither
the zero-width space nor the information separators.
-/

namespace VtableHeader.Text

/-- The characters with the Unicode property White_Space. -/
def whiteSpace : CharTable :=
  [(0x09, 0x0d), (0x20, 0x20), (0x85, 0x85), (0xa0, 0xa0), (0x1680, 0x1680),
    (0x2000, 0x200a), (0x2028, 0x2029), (0x202f, 0x202f), (0x205f, 0x205f),
    (0x3000, 0x3000)]

/-- Whether `text` has no character other than blanks. -/
def isBlank (text : String) : Bool :=
  text.toList.all whiteSpace.holds

/-- Text is blank exactly when each of its characters is a blank. -/
theorem isBlank_iff {text : String} :
    isBlank text = true ↔ ∀ char ∈ text.toList, whiteSpace.holds char = true := by
  simp [isBlank]

@[simp]
theorem isBlank_empty : isBlank "" = true := by
  simp [isBlank]

end VtableHeader.Text
