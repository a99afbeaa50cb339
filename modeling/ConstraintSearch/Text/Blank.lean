import ConstraintSearch.Text.Ranges

/-!
White space in the sense of Unicode.
-/

namespace ConstraintSearch.Text

def blankRanges : CodeRanges := [(0x9, 0xd), (0x20, 0x20), (0x85, 0x85), (0xa0, 0xa0),
  (0x1680, 0x1680), (0x2000, 0x200a), (0x2028, 0x2029), (0x202f, 0x202f), (0x205f, 0x205f),
  (0x3000, 0x3000)]

/-- Controls and separators of the ASCII range count, and so do those beyond it. -/
def isBlank (c : Char) : Bool := blankRanges.has c

end ConstraintSearch.Text
