import MiniLisp.Text.CharSet

/-! # White space

    The characters that count as blank where text is trimmed: the separators
    of Unicode and the control characters that separate lines, paragraphs or
    fields.
-/

namespace MiniLisp.Text

/-- The blank characters. -/
def blanks : CharRanges :=
  [
    (0x9, 0xD), (0x1C, 0x20), (0x85, 0x85), (0xA0, 0xA0), (0x1680, 0x1680), (0x2000, 0x200A),
    (0x2028, 0x2029), (0x202F, 0x202F), (0x205F, 0x205F), (0x3000, 0x3000) ]

/-- Whether a character is blank. -/
def isBlank (c : Char) : Bool :=
  blanks.holds c.toNat

/-- The characters without blanks at either end. -/
def trim (text : List Char) : List Char :=
  ((text.dropWhile isBlank).reverse.dropWhile isBlank).reverse

end MiniLisp.Text
