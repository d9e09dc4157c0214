import SchemaTypes.Text.Ranges

/-!
White space, by the property White_Space of Unicode.
-/

namespace SchemaTypes.Text

/-- The code points of white space. -/
def whitespaceRanges : List (Nat × Nat) :=
  [(0x9, 0xD), (0x20, 0x20), (0x85, 0x85), (0xA0, 0xA0), (0x1680, 0x1680), (0x2000, 0x200A),
   (0x2028, 0x2029), (0x202F, 0x202F), (0x205F, 0x205F), (0x3000, 0x3000)]

/-- A character of white space. -/
def isWhitespace (c : Char) : Bool :=
  inRanges whitespaceRanges c.toNat

/-- A text without the white space at its end. -/
def trimEnd (s : List Char) : List Char :=
  (s.reverse.dropWhile isWhitespace).reverse

end SchemaTypes.Text
