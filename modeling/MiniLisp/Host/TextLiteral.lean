import MiniLisp.Host.Platform
import MiniLisp.Text.Digit

/-! # The bodies of text literals

    What the characters between the quotes of a literal stand for. A
    backslash takes one of the known letters, a number of digits in base eight
    or sixteen, a character's name in braces, or a line break; before any other
    character it stands for itself.
-/

namespace MiniLisp.Host.TextLiteral

variable [Platform]

/-- The character that a letter after a backslash stands for. -/
def simpleEscape? : Char → Option Char
  | '\\' => some '\\'
  | '\'' => some '\''
  | '"' => some '"'
  | 'a' => some '\x07'
  | 'b' => some '\x08'
  | 'f' => some '\x0c'
  | 'n' => some '\n'
  | 'r' => some '\r'
  | 't' => some '\t'
  | 'v' => some '\x0b'
  | _ => none

/-- The value of a digit in base eight. -/
def octal? (c : Char) : Option Nat :=
  if '0' ≤ c && c ≤ '7' then some (c.toNat - '0'.toNat) else none

/-- The value of a digit in base sixteen. -/
def hex? (c : Char) : Option Nat :=
  (Text.alphanumeric? c).filter (· < 16)

/-- The number that exactly `count` digits in base sixteen spell at the front
    of a text. -/
def hexNumber? (count : Nat) (text : List Char) : Option Nat := do
  let digits ← (text.take count).mapM hex?
  if digits.length = count then return Text.ofDigits 16 digits else none

/-- The digits in base eight at the front of a text, three at most. -/
def octalDigits (text : List Char) : List Nat :=
  ((text.take 3).takeWhile fun c => (octal? c).isSome).filterMap octal?

/-- The character of a code point. Halves of surrogate pairs, which no text
    can hold, become characters of the last plane for private use, each another
    one. -/
def character (point : Nat) : Char :=
  if 0xD800 ≤ point && point ≤ 0xDFFF then Char.ofNat (0x100000 + point) else Char.ofNat point

/-- The name in braces at the front of a text. -/
def bracedName? : List Char → Option (List Char)
  | '\x7b' :: rest =>
      let name := rest.takeWhile (· != '\x7d')
      if name.isEmpty || name.length = rest.length then none else some name
  | _ => none

/-- The text that the body of a literal stands for. The first `skip`
    characters have been dealt with already. -/
def decodeText (skip : Nat) : List Char → Option (List Char)
  | [] => some []
  | c :: rest =>
      match skip with
      | skip + 1 => decodeText skip rest
      | 0 =>
        if c != '\\' then (decodeText 0 rest).map (c :: ·)
        else match rest with
          | [] => some [c]
          | d :: digits =>
            let numbered (count : Nat) : Option (List Char) := do
              let point ← hexNumber? count digits
              if 0x10FFFF < point then none
              else return character point :: (← decodeText (count + 1) rest)
            match d with
            | '\n' => decodeText 1 rest
            | 'x' => numbered 2
            | 'u' => numbered 4
            | 'U' => numbered 8
            | 'N' => do
              let name ← bracedName? digits
              let named ← Platform.character? (String.ofList name)
              return named :: (← decodeText (name.length + 3) rest)
            | d =>
              match simpleEscape? d with
              | some e => (decodeText 1 rest).map (e :: ·)
              | none =>
                match octalDigits rest with
                | [] => (decodeText 0 rest).map (c :: ·)
                | ds => (decodeText ds.length rest).map (character (Text.ofDigits 8 ds) :: ·)

/-- The bytes that the body of a literal of bytes stands for. -/
def decodeBytes (skip : Nat) : List Char → Option (List Nat)
  | [] => some []
  | c :: rest =>
      match skip with
      | skip + 1 => decodeBytes skip rest
      | 0 =>
        if c != '\\' then (decodeBytes 0 rest).map (c.toNat :: ·)
        else match rest with
          | [] => none
          | d :: digits =>
            match d with
            | '\n' => decodeBytes 1 rest
            | 'x' => do
              let byte ← hexNumber? 2 digits
              return byte :: (← decodeBytes 3 rest)
            | d =>
              match simpleEscape? d with
              | some e => (decodeBytes 1 rest).map (e.toNat :: ·)
              | none =>
                match octalDigits rest with
                | [] => (decodeBytes 0 rest).map (c.toNat :: ·)
                | ds => (decodeBytes ds.length rest).map (Text.ofDigits 8 ds % 256 :: ·)

/-- The text of a literal, `none` if its body is malformed. -/
def text? (raw : Bool) (body : List Char) : Option (List Char) :=
  if raw then some body else decodeText 0 body

/-- The bytes of a literal, `none` if its body is malformed or not ASCII. -/
def bytes? (raw : Bool) (body : List Char) : Option (List Nat) :=
  if body.all (·.toNat < 128) then
    if raw then some (body.map Char.toNat) else decodeBytes 0 body
  else none

end MiniLisp.Host.TextLiteral
