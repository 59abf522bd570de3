import MiniLisp.Number.Shortest

/-! # The text of a number

    A number is written with the digits of its shortest decimal, either
    positionally (`0.001`, `1200`) or with an exponent (`1.5e+21`, `1e-7`).
    Where one notation gives way to the other, and how an exponent looks, is
    collected in a `DecimalStyle`.
-/

namespace MiniLisp

/-- How decimals are laid out. -/
structure DecimalStyle where
  /-- The least exponent of a first digit that calls for an exponent. -/
  scientificFrom : Int
  /-- What follows the digits of a whole number written positionally. -/
  wholeMark : String
  /-- The least number of digits of an exponent. -/
  exponentWidth : Nat
  deriving Repr

namespace DecimalStyle

/-- `count` zeros. -/
def zeros (count : Nat) : List Char :=
  List.replicate count '0'

/-- Digits and the exponent of the first of them, written positionally. -/
def positional (style : DecimalStyle) (digits : List Char) (leading : Int) : List Char :=
  if leading < 0 then
    '0' :: '.' :: (zeros (-leading - 1).toNat ++ digits)
  else
    let whole := leading.toNat + 1
    if digits.length ≤ whole then
      digits ++ zeros (whole - digits.length) ++ style.wholeMark.toList
    else digits.take whole ++ '.' :: digits.drop whole

/-- Digits and the exponent of the first of them, written with an exponent. -/
def scientific (style : DecimalStyle) (digits : List Char) (leading : Int) : List Char :=
  let mantissa := match digits with
    | [] => []
    | [d] => [d]
    | d :: rest => d :: '.' :: rest
  let exponent := Nat.toDigits 10 leading.natAbs
  mantissa ++ 'e' :: (if leading < 0 then '-' else '+') ::
    (zeros (style.exponentWidth - exponent.length) ++ exponent)

/-- The text of a positive decimal. Below `10 ^ -4` an exponent is written in
    every style. -/
def render (style : DecimalStyle) (d : Decimal) : List Char :=
  let digits := Nat.toDigits 10 d.digits
  if -4 ≤ d.leading ∧ d.leading < style.scientificFrom then
    style.positional digits d.leading
  else style.scientific digits d.leading

/-- The text of a finite double other than zero. -/
def renderParts (style : DecimalStyle) (negative : Bool) (significand : Nat)
    (exponent : Int) : String :=
  let text := style.render (Decimal.shortest significand exponent)
  String.ofList (if negative then '-' :: text else text)

end DecimalStyle

namespace Number

/-- Numbers are written positionally below `10 ^ 21`, whole ones without a
    point, and exponents carry their sign but no leading zero. -/
def style : DecimalStyle where
  scientificFrom := 21
  wholeMark := ""
  exponentWidth := 1

/-- The text of a number. Zero loses its sign. -/
def text (x : Float) : String :=
  match Binary64.parts x with
  | .nan => "NaN"
  | .infinite false => "Infinity"
  | .infinite true => "-Infinity"
  | .finite negative significand exponent =>
      if significand = 0 then "0"
      else style.renderParts negative significand exponent

end Number

end MiniLisp
