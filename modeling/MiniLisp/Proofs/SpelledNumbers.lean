import MiniLisp.Number.Reading
import MiniLisp.Proofs.ShortestDecimal

/-! # The number that a text spells

    Reading a number finds the decimal that a text spells and rounds it to a
    double. Here it is left unrounded: two texts spell the same number exactly if
    their decimals have the same value.

    * **`Number.spelled?`** — the number that a text spells;
    * **`Number.ofText?_numeral`** — digits, places and an exponent spell what
      they look like. -/

namespace MiniLisp

namespace Number

/-! ## Reading without rounding -/

/-- A number with its sign. -/
def withSign (negative : Bool) (number : ℚ) : ℚ :=
  if negative then -number else number

/-- The number that a text with an optional sign spells. -/
def spelled? (text : List Char) : Option ℚ :=
  let (negative, rest) := spanSign text
  (Decimal.ofText? rest).map fun d => withSign negative d.value

/-! ## The parts of a numeral -/

/-- All characters are digits. -/
def AreDigits (text : List Char) : Prop :=
  ∀ c ∈ text, c.isDigit = true

/-- The sign in front of a text, if there is one. -/
def signed (negative : Bool) (text : List Char) : List Char :=
  if negative then '-' :: text else text

/-- A point and the places after it; without places there is no point. -/
def afterPoint : List Char → List Char
  | [] => []
  | c :: rest => '.' :: c :: rest

variable {digits whole fraction rest text : List Char}

theorem spanDigits_append (h : AreDigits digits) (hrest : ∀ c ∈ rest.head?, c.isDigit = false) :
    spanDigits (digits ++ rest) = (digits.map fun c => c.toNat - '0'.toNat, rest) := by
  have htake : (digits ++ rest).takeWhile Char.isDigit = digits := by
    rw [List.takeWhile_append_of_pos h]
    cases rest with
    | nil => simp
    | cons c rest => simp [hrest c rfl]
  have hdrop : (digits ++ rest).dropWhile Char.isDigit = rest := by
    rw [List.dropWhile_append_of_pos h]
    cases rest with
    | nil => simp
    | cons c rest => simp [hrest c rfl]
  rw [spanDigits, htake, hdrop]

theorem ofDigits_map (digits : List Char) :
    Text.ofDigits 10 (digits.map fun c => c.toNat - '0'.toNat) = Nat.ofDigitChars 10 digits 0 := by
  rw [Text.ofDigits, List.foldl_map, Nat.ofDigitChars_eq_foldl]
  congr 1
  funext n c
  rw [Nat.mul_comm]

theorem spanPlaces_append (h : AreDigits fraction)
    (hrest : ∀ c ∈ rest.head?, c.isDigit = false ∧ c ≠ '.') :
    spanPlaces (afterPoint fraction ++ rest) =
      (fraction.map fun c => c.toNat - '0'.toNat, rest) := by
  cases fraction with
  | nil =>
    rw [afterPoint, List.nil_append, spanPlaces.eq_2]
    · rfl
    · rintro places rfl
      exact absurd rfl (hrest '.' rfl).2
  | cons c places => exact spanDigits_append h fun d hd => (hrest d hd).1

/-- A numeral spells all its digits, moved by the number of its places. -/
theorem ofText?_numeral (hwhole : AreDigits whole) (hne : whole ≠ [])
    (hfraction : AreDigits fraction)
    (hrest : ∀ c ∈ rest.head?, c.isDigit = false ∧ c ≠ '.') :
    Decimal.ofText? (whole ++ (afterPoint fraction ++ rest)) =
      (exponent? rest).map fun e =>
        ⟨Nat.ofDigitChars 10 (whole ++ fraction) 0, e - fraction.length⟩ := by
  have hafter : ∀ c ∈ (afterPoint fraction ++ rest).head?, c.isDigit = false := by
    cases fraction with
    | nil => exact fun c hc => (hrest c hc).1
    | cons d places =>
      rintro c ⟨rfl⟩
      decide
  have hsome : (whole.map fun c => c.toNat - '0'.toNat).isEmpty = false := by simpa using hne
  rw [Decimal.ofText?, spanDigits_append hwhole hafter]
  dsimp only
  rw [spanPlaces_append hfraction hrest, hsome]
  simp only [Bool.false_and, ← List.map_append, ofDigits_map, List.length_map]
  rfl

/-- The sign of an exponent, which is always written. -/
def exponentSign (exponent : Int) : Char :=
  if exponent < 0 then '-' else '+'

theorem exponent?_signed {exponent : Int} (h : AreDigits digits) (hne : digits ≠ [])
    (hvalue : Nat.ofDigitChars 10 digits 0 = exponent.natAbs) :
    exponent? ('e' :: exponentSign exponent :: digits) = some exponent := by
  have hspan : spanDigits (digits ++ []) = _ := spanDigits_append h (by simp)
  have hsize := ofDigits_map digits
  obtain ⟨c, others, rfl⟩ := List.exists_cons_of_ne_nil hne
  rw [List.append_nil, List.map_cons] at hspan
  rw [hvalue, List.map_cons] at hsize
  rcases lt_or_ge exponent 0 with hneg | hpos
  · have hnegated : -(exponent.natAbs : Int) = exponent := by omega
    rw [exponentSign, if_pos hneg]
    simp only [exponent?, spanSign, hspan, hsize]
    exact congrArg some hnegated
  · have hself : (exponent.natAbs : Int) = exponent := by omega
    rw [exponentSign, if_neg (not_lt.2 hpos)]
    simp only [exponent?, spanSign, hspan, hsize]
    exact congrArg some hself

theorem spelled?_signed (negative : Bool) (hfirst : ∀ c ∈ text.head?, c.isDigit = true) :
    spelled? (signed negative text) =
      (Decimal.ofText? text).map fun d => withSign negative d.value := by
  cases negative with
  | true => rfl
  | false =>
    have hsign : spanSign text = (false, text) := by
      rw [spanSign.eq_3]
      · rintro rest rfl
        exact absurd (hfirst '-' rfl) (by decide)
      · rintro rest rfl
        exact absurd (hfirst '+' rfl) (by decide)
    simp only [spelled?, signed, Bool.false_eq_true, if_false]
    rw [hsign]

theorem spelled?_numeral (negative : Bool) (hwhole : AreDigits whole) (hne : whole ≠ [])
    (hfraction : AreDigits fraction) (hrest : ∀ c ∈ rest.head?, c.isDigit = false ∧ c ≠ '.')
    {exponent : Int} (hexponent : exponent? rest = some exponent) :
    spelled? (signed negative (whole ++ (afterPoint fraction ++ rest))) =
      some (withSign negative
        (Nat.ofDigitChars 10 (whole ++ fraction) 0 * 10 ^ (exponent - fraction.length))) := by
  have hfirst : ∀ c ∈ (whole ++ (afterPoint fraction ++ rest)).head?, c.isDigit = true := by
    obtain ⟨d, others, rfl⟩ := List.exists_cons_of_ne_nil hne
    rintro c ⟨rfl⟩
    exact hwhole _ List.mem_cons_self
  rw [spelled?_signed negative hfirst, ofText?_numeral hwhole hne hfraction hrest, hexponent,
    Option.map_some, Option.map_some, Decimal.value]

/-- Digits alone spell the number that they count. -/
theorem spelled?_digits (negative : Bool) (h : AreDigits digits) (hne : digits ≠ []) :
    spelled? (signed negative digits) =
      some (withSign negative (Nat.ofDigitChars 10 digits 0)) := by
  have hnone : AreDigits [] := by simp [AreDigits]
  have hexponent : exponent? [] = some 0 := rfl
  have hnumeral := spelled?_numeral negative h hne hnone (by simp) hexponent
  simpa [afterPoint] using hnumeral

end Number

end MiniLisp
