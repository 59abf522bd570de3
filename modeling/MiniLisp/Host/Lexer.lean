import MiniLisp.Host.Expression
import MiniLisp.Number.Text
import MiniLisp.Text.Digit
import MiniLisp.Text.Word

/-! # The lexemes of host expressions

    An expression is one logical line: line breaks count only outside of
    brackets, where nothing but comments may follow them. Lexemes are words,
    number literals, text literals and punctuation marks, each as long as
    possible.
-/

namespace MiniLisp.Host

/-- The letters before a text literal. -/
structure TextFlags where
  raw : Bool
  bytes : Bool
  formatted : Bool
  deriving DecidableEq, Repr

/-- A lexeme. The body of a text literal is kept as it is written. -/
inductive Lexeme where
  | word (text : String)
  | number (value : Literal)
  | text (flags : TextFlags) (body : List Char)
  | mark (spelling : String)

namespace Lexeme

/-! ## Words -/

/-- Whether a character may belong to a word, as far as the lexer looks. -/
def isWordChar (c : Char) : Bool :=
  c.isAlphanum || c == '_' || 128 ≤ c.toNat

/-- Whether a character may begin a word, as far as the lexer looks. -/
def startsWord (c : Char) : Bool :=
  isWordChar c && !c.isDigit

/-- The text after a given beginning. -/
def after? (beginning text : List Char) : Option (List Char) :=
  if beginning.isPrefixOf text then some (text.drop beginning.length) else none

/-! ## Numbers -/

/-- Digits, each but the first after an optional underscore. The underscore
    must have a digit after it. -/
def spanDigits (isDigit : Char → Bool) : List Char → Option (List Char × List Char)
  | '_' :: d :: rest =>
      if isDigit d then (spanDigits isDigit rest).map fun (ds, after) => (d :: ds, after)
      else none
  | ['_'] => none
  | d :: rest =>
      if isDigit d then (spanDigits isDigit rest).map fun (ds, after) => (d :: ds, after)
      else some ([], d :: rest)
  | [] => some ([], [])

/-- The words that may follow a number without a blank. -/
def wordsAfterNumber : List (List Char) :=
  ["and", "else", "for", "or", "not"].map String.toList

/-- Whether a number may end before the text. -/
def endsNumber (text : List Char) : Bool :=
  match text with
  | [] => true
  | ['i'] => false
  | 'i' :: c :: _ => c == 'f' || c == 'n' || c == 's'
  | c :: _ =>
      !isWordChar c ||
      wordsAfterNumber.any fun w =>
        match after? w text with
        | some (d :: _) => !isWordChar d
        | some [] => true
        | none => false

/-- The longest whole number that may be written in base ten. -/
def maxDigits : Nat := 4300

/-- How imaginary literals show their size: like other numbers, but without a
    mark on whole ones. -/
def imaginaryStyle : DecimalStyle where
  scientificFrom := 16
  wholeMark := ""
  exponentWidth := 2

/-- The text of an imaginary literal. -/
def imaginaryText (size : Float) : String :=
  match Binary64.parts size with
  | .finite negative significand exponent =>
      if significand = 0 then "0j"
      else imaginaryStyle.renderParts negative significand exponent ++ "j"
  | _ => "infj"

/-- Whole digits, fraction digits and exponent of a literal in base ten. -/
structure DecimalLiteral where
  whole : List Char
  fraction : Option (List Char)
  exponent : Option (Bool × List Char)

/-- The number spelled by ASCII digits. -/
def ofDigits (digits : List Char) : Nat :=
  Text.ofDigits 10 (digits.filterMap Text.asciiDigit?)

/-- The size of a literal as a double. -/
def DecimalLiteral.size (d : DecimalLiteral) : Float :=
  let fraction := d.fraction.getD []
  let exponent : Int := match d.exponent with
    | some (true, ds) => -(ofDigits ds : Int)
    | some (false, ds) => ofDigits ds
    | none => 0
  Binary64.ofDecimal false (ofDigits (d.whole ++ fraction)) (exponent - fraction.length)

/-- The value of a literal without a mark for imaginary numbers. Whole numbers
    must not begin with a zero, unless they are zero, and must not be longer
    than `maxDigits`. -/
def DecimalLiteral.value? (d : DecimalLiteral) : Option Literal :=
  match d.fraction, d.exponent with
  | none, none =>
      let n := ofDigits d.whole
      if n = 0 then some (.int 0)
      else if d.whole.head? == some '0' || maxDigits < d.whole.length then none
      else some (.int n)
  | _, _ => some (.real d.size)

/-- An exponent at the front of a text. Where no digits follow its letter, the
    letter begins the next word. -/
def exponent? (text : List Char) : Option (Option (Bool × List Char) × List Char) :=
  match text with
  | c :: rest =>
      if c == 'e' || c == 'E' then
        let signed (negative : Bool) (digits : List Char) :=
          match digits with
          | d :: _ =>
              if d.isDigit then
                (spanDigits Char.isDigit digits).map fun (ds, after) => (some (negative, ds), after)
              else none
          | [] => none
        match rest with
        | '+' :: digits => signed false digits
        | '-' :: digits => signed true digits
        | d :: _ => if d.isDigit then signed false rest else some (none, text)
        | [] => some (none, text)
      else some (none, text)
  | [] => some (none, text)

/-- Completes a literal of which the whole and fraction digits are known. -/
def finishNumber (whole : List Char) (fraction : Option (List Char)) (text : List Char) :
    Option (Literal × List Char) := do
  let (exponent, rest) ← exponent? text
  let d : DecimalLiteral := ⟨whole, fraction, exponent⟩
  match rest with
  | c :: after =>
      if c == 'j' || c == 'J' then
        if endsNumber after then return (.other (imaginaryText d.size), after) else none
      else if endsNumber rest then return (← d.value?, rest)
      else none
  | [] => return (← d.value?, [])

/-- A literal in the base of a letter after a leading zero. -/
def radixNumber (base : Nat) (text : List Char) : Option (Literal × List Char) := do
  let isDigit (c : Char) := match Text.alphanumeric? c with
    | some d => d < base
    | none => false
  let (digits, rest) ← spanDigits isDigit text
  if digits.isEmpty || !endsNumber rest then none
  else return (.int (Text.ofDigits base (digits.filterMap Text.alphanumeric?)), rest)

/-- The number literal at the front of a text that begins with a digit, or
    with a point before a digit. -/
def number? (text : List Char) : Option (Literal × List Char) :=
  match text with
  | '0' :: 'x' :: rest | '0' :: 'X' :: rest => radixNumber 16 rest
  | '0' :: 'o' :: rest | '0' :: 'O' :: rest => radixNumber 8 rest
  | '0' :: 'b' :: rest | '0' :: 'B' :: rest => radixNumber 2 rest
  | _ => do
      let (whole, rest) ←
        if text.head? == some '.' then some ([], text) else spanDigits Char.isDigit text
      match rest with
      | '.' :: c :: after =>
          if c.isDigit then
            let (fraction, rest) ← spanDigits Char.isDigit (c :: after)
            finishNumber whole (some fraction) rest
          else finishNumber whole (some []) (c :: after)
      | ['.'] => finishNumber whole (some []) []
      | rest => finishNumber whole none rest

/-! ## Text literals -/

/-- The flags that the letters before a quote stand for. -/
def flagsOf? (letters : List Char) : Option TextFlags :=
  match String.ofList (letters.map Char.toLower) with
  | "" | "u" => some ⟨false, false, false⟩
  | "r" => some ⟨true, false, false⟩
  | "b" => some ⟨false, true, false⟩
  | "f" => some ⟨false, false, true⟩
  | "br" | "rb" => some ⟨true, true, false⟩
  | "fr" | "rf" => some ⟨true, false, true⟩
  | _ => none

/-- Splits the text after a single opening quote at the closing one, which
    must be on the same line. -/
def splitShort (quote : Char) : List Char → Option (List Char × List Char)
  | [] => none
  | ['\\'] => none
  | '\\' :: c :: rest =>
      (splitShort quote rest).map fun (body, after) => ('\\' :: c :: body, after)
  | c :: rest =>
      if c == quote then some ([], rest)
      else if c == '\n' then none
      else (splitShort quote rest).map fun (body, after) => (c :: body, after)

/-- Splits the text after three opening quotes at the three closing ones. -/
def splitLong (quote : Char) : List Char → Option (List Char × List Char)
  | [] => none
  | ['\\'] => none
  | '\\' :: c :: rest =>
      (splitLong quote rest).map fun (body, after) => ('\\' :: c :: body, after)
  | c :: rest =>
      if c == quote && [quote, quote].isPrefixOf rest then some ([], rest.drop 2)
      else (splitLong quote rest).map fun (body, after) => (c :: body, after)

/-- The body of the text literal whose opening quote stands at the front. -/
def textBody? (quote : Char) (rest : List Char) : Option (List Char × List Char) :=
  if [quote, quote].isPrefixOf rest then splitLong quote (rest.drop 2)
  else splitShort quote rest

/-! ## Punctuation -/

/-- The marks, longer ones before their beginnings. -/
def marks : List String :=
  ["**=", "...", "//=", "<<=", ">>=", "!=", "%=", "&=", "**", "*=", "+=", "-=", "->", "//",
   "/=", ":=", "<<", "<=", "<>", "==", ">=", ">>", "@=", "^=", "|=", "%", "&", "(", ")", "*",
   "+", ",", "-", ".", "/", ":", ";", "<", "=", ">", "@", "[", "]", "^", "\x7b", "|", "\x7d",
   "~"]

/-- The mark at the front of a text. -/
def mark? (text : List Char) : Option (String × List Char) :=
  marks.findSome? fun m => (after? m.toList text).map fun rest => (m, rest)

/-! ## One lexeme -/

/-- The lexeme at the front of a text, and what follows it. -/
def first? (text : List Char) : Option (Lexeme × List Char) :=
  match text with
  | [] => none
  | c :: rest =>
      let pointNumber := c == '.' && (rest.head?.map Char.isDigit).getD false
      if c.isDigit || pointNumber then
        (number? text).map fun (value, after) => (.number value, after)
      else if c == '"' || c == '\'' then
        (textBody? c rest).map fun (body, after) => (.text ⟨false, false, false⟩ body, after)
      else if startsWord c then
        let word := text.takeWhile isWordChar
        let after := text.dropWhile isWordChar
        match flagsOf? word, after with
        | some flags, '"' :: more =>
            (textBody? '"' more).map fun (body, after) => (.text flags body, after)
        | some flags, '\'' :: more =>
            (textBody? '\'' more).map fun (body, after) => (.text flags body, after)
        | _, _ => if Text.isWord word then some (.word (String.ofList word), after) else none
      else (mark? text).map fun (m, after) => (.mark m, after)

/-! ## All lexemes -/

/-- The greatest number of brackets that may be open at once. -/
def maxBrackets : Nat := 200

/-- The number of open brackets after a lexeme. -/
def openAfter? (now : Nat) : Lexeme → Option Nat
  | .mark m =>
      if m == "(" || m == "[" || m == "\x7b" then
        if now < maxBrackets then some (now + 1) else none
      else if m == ")" || m == "]" || m == "\x7d" then
        if now = 0 then none else some (now - 1)
      else some now
  | _ => some now

/-- The lexemes of a text, of which every step takes at least one character.
    `opened` brackets are open; `ended` says that the line of the expression
    has ended. -/
def collect (opened : Nat) (ended : Bool) : Nat → List Char → Option (List Lexeme)
  | _, [] => if opened = 0 then some [] else none
  | 0, _ => none
  | steps + 1, c :: rest =>
      if c == ' ' || c == '\t' || c == '\x0c' then collect opened ended steps rest
      else if c == '#' then collect opened ended steps (rest.dropWhile (· != '\n'))
      else if c == '\n' then collect opened (ended || opened = 0) steps rest
      else if c == '\\' then
        match rest with
        | '\n' :: d :: more => collect opened ended steps (d :: more)
        | _ => none
      else if ended then none
      else match first? (c :: rest) with
        | none => none
        | some (lexeme, after) =>
          match openAfter? opened lexeme with
          | none => none
          | some opened =>
            (collect opened ended steps after).map (lexeme :: ·)

/-- Skips the lines without an expression at the beginning. The expression
    must begin in the first column; `column` is the current one, and the first
    one other than zero before a continued line is kept in `kept`. -/
def skipLines (column kept : Nat) : Nat → List Char → Option (List Char)
  | steps + 1, ' ' :: rest => skipLines (column + 1) kept steps rest
  | steps + 1, '\t' :: rest => skipLines ((column / 8 + 1) * 8) kept steps rest
  | steps + 1, '\x0c' :: rest => skipLines 0 kept steps rest
  | steps + 1, '\n' :: rest => skipLines 0 0 steps rest
  | steps + 1, '#' :: rest => skipLines 0 0 steps (rest.dropWhile (· != '\n'))
  | steps + 1, '\\' :: '\n' :: c :: rest =>
      skipLines column (if kept = 0 then column else kept) steps (c :: rest)
  | _, rest => if (if kept = 0 then column else kept) = 0 then some rest else none

/-- Line breaks of every kind become line feeds. -/
def plainLines : List Char → List Char
  | '\r' :: '\n' :: rest => '\n' :: plainLines rest
  | '\r' :: rest => '\n' :: plainLines rest
  | c :: rest => c :: plainLines rest
  | [] => []

/-- The lexemes of a text. -/
def ofText? (text : List Char) : Option (List Lexeme) := do
  let text := plainLines text
  let text ← skipLines 0 0 text.length text
  if text.contains '\x00' then none
  else collect 0 false text.length text

end Lexeme

end MiniLisp.Host
