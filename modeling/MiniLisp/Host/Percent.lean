import MiniLisp.Host.Arithmetic
import MiniLisp.Host.TextLiteral
import MiniLisp.Number.Places

/-! # Formatting with percent signs

    The remainder of a text by a value is the text with its fields filled in.
    A field is a percent sign, flags, a width, a precision and a letter. There
    is one value to fill in, which the first field uses up; a list also counts
    as a table of values, so that it need not be used.
-/

namespace MiniLisp.Host.Percent

variable [Platform]

/-! ## Fields -/

/-- A field between its percent sign and its letter. -/
structure Field where
  left : Bool
  plus : Bool
  blank : Bool
  alternate : Bool
  zero : Bool
  width : Nat
  precision : Option Nat

/-- A field without flags, width and precision. -/
def Field.empty : Field := ⟨false, false, false, false, false, 0, none⟩

/-- Reads flags. -/
def flags (f : Field) : List Char → Field × List Char
  | '-' :: rest => flags { f with left := true } rest
  | '+' :: rest => flags { f with plus := true } rest
  | ' ' :: rest => flags { f with blank := true } rest
  | '#' :: rest => flags { f with alternate := true } rest
  | '0' :: rest => flags { f with zero := true } rest
  | rest => (f, rest)

/-- Reads digits onto a number, as long as it stays below the bound. -/
def number? (bound n : Nat) : List Char → Option (Nat × List Char)
  | c :: rest =>
      match Text.asciiDigit? c with
      | some d => if bound < n * 10 + d then none else number? bound (n * 10 + d) rest
      | none => some (n, c :: rest)
  | [] => some (n, [])

/-- The value to fill in, unless it is used up. -/
def take (v : Value) (used : Bool) : Outcome Value :=
  if used then raise .formatTooFew else .ok v

/-- The whole number to fill in for a star. -/
def takeStar (v : Value) (used : Bool) : Outcome Int := do
  let v ← take v used
  match v.int? with
  | some n => return n
  | none => raise .formatStar

/-- The greatest precision. -/
def maxPrecision : Nat := Nat.pow 2 31 - 1

/-- Reads a width. A star stands for the value to fill in; below zero it also
    asks for the text to stand on the left. -/
def width (f : Field) (v : Value) (used : Bool) (text : List Char) :
    Outcome (Field × Bool × List Char) :=
  match text with
  | '*' :: rest => do
      let n ← takeStar v used
      if maxSize < n ∨ n < -maxSize - 1 then raise .formatStarWidth
      return ({ f with left := f.left || n < 0, width := n.natAbs }, true, rest)
  | _ =>
      match number? maxSize.toNat 0 text with
      | some (n, rest) => .ok ({ f with width := n }, used, rest)
      | none => raise .formatWidth

/-- Reads a precision. -/
def precision (f : Field) (v : Value) (used : Bool) (text : List Char) :
    Outcome (Field × Bool × List Char) :=
  match text with
  | '.' :: '*' :: rest => do
      let n ← takeStar v used
      if (maxPrecision : Int) < n ∨ n < -(maxPrecision : Int) - 1 then raise .formatStarPrecision
      return ({ f with precision := some n.toNat }, true, rest)
  | '.' :: rest =>
      match number? maxPrecision 0 rest with
      | some (n, rest) => .ok ({ f with precision := some n }, used, rest)
      | none => raise .formatPrecision
  | _ => .ok (f, used, text)

/-- Skips a letter that tells the size of a number. -/
def skipSize : List Char → List Char
  | 'h' :: rest => rest
  | 'l' :: rest => rest
  | 'L' :: rest => rest
  | rest => rest

/-- Whether a key is closed, and so the list is asked for it. -/
def keyCloses (opened : Nat) : List Char → Bool
  | [] => false
  | ')' :: rest => opened == 1 || keyCloses (opened - 1) rest
  | '(' :: rest => keyCloses (opened + 1) rest
  | _ :: rest => keyCloses opened rest

/-! ## Filling in -/

/-- `n` spaces or zeros. -/
def fill (c : Char) (n : Nat) : List Char :=
  List.replicate n c

/-- A number in its field: sign, mark of the base and digits, filled up to the
    width with spaces or, between mark and digits, with zeros. -/
def placeNumber (f : Field) (negative : Bool) (mark digits : List Char) : List Char :=
  let sign := if negative then ['-'] else if f.plus then ['+'] else if f.blank then [' '] else []
  let missing := f.width - (sign.length + mark.length + digits.length)
  if f.left then sign ++ mark ++ digits ++ fill ' ' missing
  else if f.zero then sign ++ mark ++ fill '0' missing ++ digits
  else fill ' ' missing ++ sign ++ mark ++ digits

/-- A text in its field. -/
def placeText (f : Field) (text : List Char) : List Char :=
  let missing := f.width - text.length
  if f.left then text ++ fill ' ' missing else fill ' ' missing ++ text

/-- A whole number for one of the letters `d`, `i`, `u`, `o`, `x` and `X`. -/
def wholeNumber (f : Field) (letter : Char) (n : Int) : Outcome (List Char) := do
  let base := if letter == 'o' then 8 else if letter == 'x' || letter == 'X' then 16 else 10
  if base = 10 && Value.tooLong n.natAbs then raise .digitsWritten
  let precision := f.precision.getD 0
  if maxPrecision < precision + 3 then raise .formatPrecisionTooLarge
  if Platform.memory < precision then .error .memory
  let digits := Nat.toDigits base n.natAbs
  let digits := fill '0' (precision - digits.length) ++ digits
  let mark := if base ≠ 10 && f.alternate then ['0', if base = 8 then 'o' else 'x'] else []
  let upper (cs : List Char) := if letter == 'X' then cs.map Char.toUpper else cs
  return placeNumber f (n < 0) (upper mark) (upper digits)

/-! ## Doubles -/

/-- A number with a number of digits after the point. -/
def fixedText (alternate : Bool) (num den places : Nat) : List Char :=
  let n := Number.scaled num den places
  let digits := Nat.toDigits 10 n
  let digits := fill '0' (places + 1 - digits.length) ++ digits
  let whole := digits.length - places
  digits.take whole ++ (if 0 < places || alternate then ['.'] else []) ++ digits.drop whole

/-- The digits of a number, its first one being followed by a point, with an
    exponent of two digits at least. -/
def scientificText (alternate : Bool) (digits : List Char) (exponent : Int) : List Char :=
  let point := if 1 < digits.length || alternate then ['.'] else []
  let size := Nat.toDigits 10 exponent.natAbs
  digits.take 1 ++ point ++ digits.drop 1 ++ 'e' :: (if exponent < 0 then '-' else '+') ::
    (fill '0' (2 - size.length) ++ size)

/-- The digits of a number with the given count of them, and the exponent of
    the first one. -/
def digitsOf (num den count : Nat) : List Char × Int :=
  if num = 0 then (fill '0' count, 0)
  else
    let (digits, exponent) := Number.significant num den count
    (Nat.toDigits 10 digits, exponent)

/-- Digits without the zeros at their end; one digit stays. -/
def withoutZeros (digits : List Char) : List Char :=
  match (digits.reverse.dropWhile (· == '0')).reverse with
  | [] => ['0']
  | ds => ds

/-- The shorter of the two notations with a number of significant digits. -/
def generalText (alternate : Bool) (num den precision : Nat) : List Char :=
  let count := max precision 1
  let (digits, exponent) := digitsOf num den count
  let digits := if alternate then digits else withoutZeros digits
  if exponent < -4 ∨ (count : Int) ≤ exponent then scientificText alternate digits exponent
  else if exponent < 0 then
    '0' :: '.' :: (fill '0' (-exponent - 1).toNat ++ digits)
  else
    let whole := exponent.toNat + 1
    let digits := digits ++ fill '0' (whole - digits.length)
    digits.take whole ++ (if whole < digits.length || alternate then ['.'] else []) ++
      digits.drop whole

/-- A double for one of the letters `e`, `f` and `g` and their capitals. -/
def real (f : Field) (letter : Char) (x : Float) : Outcome (List Char) := do
  let precision := f.precision.getD 6
  if Platform.memory < precision then .error .memory
  let upper (cs : List Char) := if letter.isUpper then cs.map Char.toUpper else cs
  match Binary64.parts x with
  | .nan => return placeNumber f false [] (upper "nan".toList)
  | .infinite negative => return placeNumber f negative [] (upper "inf".toList)
  | .finite negative significand exponent =>
      let (num, den) := Binary64.ratio significand exponent
      let text := match letter.toLower with
        | 'f' => fixedText f.alternate num den precision
        | 'e' =>
            let (digits, e) := digitsOf num den (precision + 1)
            scientificText f.alternate digits e
        | _ => generalText f.alternate num den precision
      return placeNumber f negative [] (upper text)

/-! ## Letters -/

/-- The text of a double cut to a whole number. -/
def truncated (x : Float) : Outcome Int :=
  match Binary64.parts x with
  | .nan => raise .nanToInt
  | .infinite _ => raise .infinityToInt
  | .finite negative significand exponent =>
      let (num, den) := Binary64.ratio significand exponent
      let size : Int := num / den
      .ok (if negative then -size else size)

/-- The value as a whole number for one of the letters of whole numbers. -/
def wholeValue (letter : Char) (v : Value) : Outcome Int :=
  match v.numeral? with
  | some (.int n) => .ok n
  | some (.real x) =>
      if letter == 'o' || letter == 'x' || letter == 'X' then raise (.formatInt letter v.kind)
      else truncated x
  | none =>
      if letter == 'o' || letter == 'x' || letter == 'X' then raise (.formatInt letter v.kind)
      else raise (.formatReal letter v.kind)

/-- The value as a single character. -/
def character (v : Value) : Outcome Char :=
  match v with
  | .text s =>
      match s.toList with
      | [c] => .ok c
      | _ => raise .formatChar
  | _ =>
    match v.int? with
    | some n =>
        if n < 0 ∨ 0x10FFFF < n then raise .formatCharRange
        else .ok (TextLiteral.character n.toNat)
    | none => raise .formatChar

/-- The text of a value for one of the letters `s`, `r` and `a`. -/
def shown (letter : Char) (v : Value) : Outcome String := do
  if letter == 's' then lift v.show?
  else
    let text ← lift v.repr
    if letter == 'a' then
      let escaped := text.toList.flatMap fun c =>
        if c.toNat < 128 then [c] else Text.escapePoint c.toNat
      return String.ofList escaped
    else return text

/-- Fills a value into a field. The letter stands at `index` of the text. -/
def fillIn (f : Field) (letter : Char) (index : Nat) (v : Value) : Outcome (List Char) := do
  if Platform.memory < f.width then .error .memory
  if letter == 's' || letter == 'r' || letter == 'a' then
    let text ← shown letter v
    let chars := match f.precision with
      | some p => text.toList.take p
      | none => text.toList
    return placeText f chars
  else if "diuoxX".toList.contains letter then
    let n ← wholeValue letter v
    wholeNumber f letter n
  else if "eEfFgG".toList.contains letter then
    match v.numeral? with
    | some n =>
        let x ← n.toFloat?
        real f letter x
    | none => raise (.formatNumber v.kind)
  else if letter == 'c' then
    let c ← character v
    return placeText f [c]
  else raise (.formatLetter letter index)

/-! ## The whole text -/

/-- Whether a value counts as a table of values. -/
def isTable : Value → Bool
  | .list _ => true
  | _ => false

/-- Reads a field after its percent sign and fills it in. Gives back the text,
    whether the value is used up, and what follows the field. -/
def oneField (v : Value) (used : Bool) (length : Nat) (text : List Char) :
    Outcome (List Char × Bool × List Char) := do
  match text with
  | '%' :: rest => return (['%'], used, rest)
  | '(' :: rest =>
      if !isTable v then raise .formatMapping
      else if keyCloses 1 rest then raise (.listIndex .text)
      else raise .formatKeyIncomplete
  | _ =>
      let (f, rest) := flags .empty text
      let (f, used, rest) ← width f v used rest
      let (f, used, rest) ← precision f v used rest
      match skipSize rest with
      | [] => raise .formatIncomplete
      | letter :: rest =>
          let v ← take v used
          let filled ← fillIn f letter (length - rest.length - 1) v
          return (filled, true, rest)

/-- Fills in the fields of a text of the given length. Every step takes at
    least one character. -/
def fields (v : Value) (length : Nat) : Nat → Bool → List Char → Outcome (List Char × Bool)
  | _, used, [] => .ok ([], used)
  | 0, used, _ => .ok ([], used)
  | steps + 1, used, c :: rest => do
      if c != '%' then
        let (more, used) ← fields v length steps used rest
        return (c :: more, used)
      else
        let (filled, used, rest) ← oneField v used length rest
        let (more, used) ← fields v length steps used rest
        return (filled ++ more, used)

/-- Fills a value into a text. -/
def format (text : String) (v : Value) : Outcome Value := do
  let chars := text.toList
  let (filled, used) ← fields v chars.length chars.length false chars
  if used || isTable v then return .text (String.ofList filled)
  else raise .formatTooMany

end MiniLisp.Host.Percent
