import MiniLisp.Number.Shortest
import MiniLisp.Text.Blank
import MiniLisp.Text.Digit

/-! # Reading numbers from text

    A number is written with an optional sign, digits with an optional point
    and an optional exponent, or as `inf`, `infinity` or `nan` in any case.
    Blanks around it are ignored, digits may be those of any script, and a
    single underscore may stand between two digits.
-/

namespace MiniLisp

namespace Number

/-! ## Plain characters -/

/-- The blanks of ASCII. -/
def isAsciiBlank (c : Char) : Bool :=
  c == ' ' || ('\t' ≤ c && c ≤ '\r')

/-- Digits of any script become ASCII digits and blanks beyond ASCII become
    spaces. -/
def plainChar (c : Char) : Char :=
  if c.toNat < 127 then c
  else if Text.isBlank c then ' '
  else match Text.digitValue? c with
    | some d => Char.ofNat ('0'.toNat + d)
    | none => c

/-- The characters of a number without blanks around them. -/
def plain (text : List Char) : List Char :=
  let inner := (text.map plainChar).dropWhile isAsciiBlank
  (inner.reverse.dropWhile isAsciiBlank).reverse

/-- Takes the underscores out, `none` if one does not stand between digits.
    `afterDigit` says whether the character before was a digit. -/
def withoutUnderscores (afterDigit : Bool) : List Char → Option (List Char)
  | [] => some []
  | '_' :: d :: rest =>
      if afterDigit && d.isDigit then
        (withoutUnderscores true rest).map (d :: ·)
      else none
  | ['_'] => none
  | c :: rest => (withoutUnderscores c.isDigit rest).map (c :: ·)

/-! ## Decimals -/

/-- The digits at the front of a text, and what follows them. -/
def spanDigits (text : List Char) : List Nat × List Char :=
  ((text.takeWhile Char.isDigit).map fun c => c.toNat - '0'.toNat, text.dropWhile Char.isDigit)

/-- A sign at the front of a text, true for minus, and what follows it. -/
def spanSign : List Char → Bool × List Char
  | '-' :: rest => (true, rest)
  | '+' :: rest => (false, rest)
  | rest => (false, rest)

/-- The exponent at the end of a decimal, zero if there is none. -/
def exponent? : List Char → Option Int
  | [] => some 0
  | c :: rest =>
      if c == 'e' || c == 'E' then
        let (negative, digits) := spanSign rest
        match spanDigits digits with
        | ([], _) => none
        | (ds, []) =>
            let size : Int := Text.ofDigits 10 ds
            some (if negative then -size else size)
        | _ => none
      else none

/-- The places after a point at the front of a text, none if there is no point,
    and what follows them. -/
def spanPlaces : List Char → List Nat × List Char
  | '.' :: rest => spanDigits rest
  | rest => ([], rest)

end Number

/-- The decimal that digits with an optional point and an optional exponent
    spell. -/
def Decimal.ofText? (text : List Char) : Option Decimal :=
  let (whole, afterWhole) := Number.spanDigits text
  let (fraction, afterFraction) := Number.spanPlaces afterWhole
  if whole.isEmpty && fraction.isEmpty then none
  else (Number.exponent? afterFraction).map fun e =>
    ⟨Text.ofDigits 10 (whole ++ fraction), e - fraction.length⟩

namespace Number

/-- The double nearest to the decimal that a text spells. -/
def decimal? (negative : Bool) (text : List Char) : Option Float :=
  (Decimal.ofText? text).map fun d => Binary64.ofDecimal negative d.digits d.exponent

/-- Reads a number without blanks and underscores. -/
def unsigned? (negative : Bool) (text : List Char) : Option Float :=
  match String.ofList (text.map Char.toLower) with
  | "inf" | "infinity" => some (Binary64.ofSignBits negative Binary64.infinityBits)
  | "nan" => some (0.0 / 0.0)
  | _ => decimal? negative text

/-- Reads a number. -/
def read? (text : List Char) : Option Float :=
  (withoutUnderscores false (plain text)).bind fun digits =>
    let (negative, rest) := spanSign digits
    unsigned? negative rest

end Number

end MiniLisp
