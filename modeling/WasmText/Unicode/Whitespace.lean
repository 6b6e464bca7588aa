import WasmText.Unicode.Ranges

/-!
# White space

The property White_Space: the spaces and line breaks of every script. The zero width space U+200B
does not have it.
-/

namespace WasmText.Unicode

/-- The code points with the property. -/
def whitespaceRanges : Ranges :=
  [(0x9, 0xD), (0x20, 0x20), (0x85, 0x85), (0xA0, 0xA0), (0x1680, 0x1680), (0x2000, 0x200A),
   (0x2028, 0x2029), (0x202F, 0x202F), (0x205F, 0x205F), (0x3000, 0x3000)]

/-- Whether a character is white space. -/
def isWhitespace (c : Char) : Bool :=
  whitespaceRanges.covers c.toNat

end WasmText.Unicode
