import MiniLisp.Text.Printable

/-! # Quoted text

    How a text is shown inside messages: between single quotes, or between
    double quotes if it holds a single quote and no double one. The quote, the
    backslash and every character that cannot be printed are escaped.
-/

namespace MiniLisp.Text

/-- The digits of a number in base sixteen, with zeros in front up to the
    given width. -/
def hex (width n : Nat) : List Char :=
  let digits := Nat.toDigits 16 n
  List.replicate (width - digits.length) '0' ++ digits

/-- A character that cannot be printed, by the number of its code point. -/
def escapePoint (point : Nat) : List Char :=
  if point < 0x100 then '\\' :: 'x' :: hex 2 point
  else if point < 0x10000 then '\\' :: 'u' :: hex 4 point
  else '\\' :: 'U' :: hex 8 point

/-- A character as it stands between the given quotes. -/
def escape (quote c : Char) : List Char :=
  if c == quote || c == '\\' then ['\\', c]
  else if c == '\t' then ['\\', 't']
  else if c == '\n' then ['\\', 'n']
  else if c == '\r' then ['\\', 'r']
  else if isPrintable c then [c]
  else escapePoint c.toNat

/-- The quotes that show a text with the fewest escapes. -/
def quoteFor (text : List Char) : Char :=
  if text.contains '\'' && !text.contains '"' then '"' else '\''

/-- The text between quotes. -/
def quoted (text : String) : String :=
  let quote := quoteFor text.toList
  String.ofList (quote :: text.toList.flatMap (escape quote) ++ [quote])

/-- Bytes between quotes, after a `b`. -/
def quotedBytes (bytes : List Nat) : String :=
  let chars := bytes.map Char.ofNat
  let quote := quoteFor chars
  let show1 (c : Char) := if c.toNat < 127 then escape quote c else escapePoint c.toNat
  String.ofList ('b' :: quote :: chars.flatMap show1 ++ [quote])

end MiniLisp.Text
