import SpacedReview.Text.Ranges

/-!
# Blank characters

The property `White_Space` of Unicode, which separates the items of a query. It is wider than the
ASCII blanks: the no-break and the ideographic space belong to it, the zero-width space does not.
-/

namespace SpacedReview.Text

/-- The ranges of the property `White_Space`. -/
def blankRanges : Ranges := [
    (0x9, 0xd), (0x20, 0x20), (0x85, 0x85), (0xa0, 0xa0), (0x1680, 0x1680), (0x2000, 0x200a),
    (0x2028, 0x2029), (0x202f, 0x202f), (0x205f, 0x205f), (0x3000, 0x3000)]

/-- Is this a blank character? -/
def isBlank (c : Char) : Bool := blankRanges.contains c.toNat

end SpacedReview.Text
