import RowQuery.Text.Range

/-! # White space -/

namespace RowQuery.Text

/-- The white-space characters. -/
def spaceRanges : List Range :=
  [(0x9, 0xd), (0x20, 0x20), (0x85, 0x85), (0xa0, 0xa0), (0x1680, 0x1680), (0x2000, 0x200a),
   (0x2028, 0x2029), (0x202f, 0x202f), (0x205f, 0x205f), (0x3000, 0x3000)]

/-- Whether a character is white space. -/
def isSpace (c : Char) : Bool := inRanges spaceRanges c

/-- A text without the white space at its two ends. -/
def trim (text : String) : String :=
  String.ofList ((text.toList.dropWhile isSpace).reverse.dropWhile isSpace).reverse

end RowQuery.Text
