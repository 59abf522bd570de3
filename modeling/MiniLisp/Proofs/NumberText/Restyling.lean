import MiniLisp.Number.Text
import MiniLisp.Proofs.SpelledNumbers
import MiniLisp.Text.Split

/-! # Restyling the text of a number

    The language writes numbers nearly as the host does. Its text of a number can
    be made from the host's: a whole number below `10 ^ 21` loses its point, and
    its exponent is written out as zeros; in all other texts the exponent loses
    the zeros in front. Which of these is done is told from the size of the
    number, while the text itself is changed character by character.

    Of the host's text only its form is used, and every text of that form keeps
    the number that it spells.

    * **`Number.restyled`** — the text that is made from the host's;
    * **`Number.HostForm`** — the form of the host's text;
    * **`Number.KeepsNumber`** — what holds of the text that is made;
    * **`Number.HostForm.keepsNumber`** — it holds for every text of the form. -/

namespace MiniLisp.Number

/-! ## How a text is changed -/

/-- Whether a size is a whole number. -/
def IsWhole (size : ℚ) : Prop :=
  size.den = 1

instance (size : ℚ) : Decidable (IsWhole size) :=
  inferInstanceAs (Decidable (size.den = 1))

/-- The digits of a mantissa before its point. -/
def wholeOf (mantissa : List Char) : List Char :=
  (mantissa.dropWhile (· == '-')).takeWhile (· != '.')

/-- The digits of a mantissa after its point. -/
def placesOf (mantissa : List Char) : List Char :=
  ((mantissa.dropWhile (· == '-')).dropWhile (· != '.')).drop 1

/-- How many zeros follow the digits of a mantissa when its exponent is written
    out. -/
def padding (mantissa exponent : List Char) : Int :=
  (exponent? ('e' :: exponent)).getD 0 - (placesOf mantissa).length

/-- A mantissa with its exponent written out. -/
def padded (mantissa exponent : List Char) : List Char :=
  signed (mantissa.head? == some '-')
    (wholeOf mantissa ++ placesOf mantissa ++ DecimalStyle.zeros (padding mantissa exponent).toNat)

/-- An exponent with its sign and without zeros in front. -/
def shortened (exponent : List Char) : List Char :=
  (if exponent.head? = some '-' then '-' else '+') ::
    (exponent.dropWhile fun c => c == '+' || c == '-').dropWhile (· == '0')

/-- The text of a double of the given size, made from the text that the host gives
    it. -/
def restyled (size : ℚ) (text : List Char) : List Char :=
  if IsWhole size ∧ size < 10 ^ 21 then
    match Text.split 'e' text with
    | [mantissa, exponent] => padded mantissa exponent
    | _ => text.take (text.length - 2)
  else
    match Text.split 'e' text with
    | [mantissa, exponent] => mantissa ++ 'e' :: shortened exponent
    | _ => text

/-! ## The form of the host's text -/

/-- A text without an exponent, for sizes from `10 ^ -4` up to `10 ^ 16`. The
    places of a whole number are a single zero, and those of any other number do
    not end in a zero. -/
structure Positional (size : ℚ) (whole places : List Char) : Prop where
  least : 10 ^ (-4 : Int) ≤ size
  below : size < 10 ^ 16
  whole_digits : AreDigits whole
  whole_ne_nil : whole ≠ []
  places_digits : AreDigits places
  places_ne_nil : places ≠ []
  significant : ((whole ++ places).dropWhile (· == '0')).length ≤ 17
  zero_iff : places = ['0'] ↔ IsWhole size
  last : places ≠ ['0'] → places.getLast? ≠ some '0'

/-- A text with an exponent, for all other sizes: a digit other than zero, places
    that do not end in a zero, and an exponent of two digits or more. It is the
    exponent of the size, or the one above where the digits are rounded up to a
    power of ten. -/
structure Scientific (size : ℚ) (first : Char) (places : List Char) (exponent : Int)
    (digits : List Char) : Prop where
  range : size < 10 ^ (-4 : Int) ∨ 10 ^ 16 ≤ size
  first_digit : first.isDigit = true
  first_ne_zero : first ≠ '0'
  places_digits : AreDigits places
  significant : places.length ≤ 16
  last : places.getLast? ≠ some '0'
  exponent_digits : AreDigits digits
  exponent_length : 2 ≤ digits.length
  exponent_value : Nat.ofDigitChars 10 digits 0 = exponent.natAbs
  leading : (10 ^ exponent ≤ size ∧ size < 10 ^ (exponent + 1)) ∨
    (first = '1' ∧ places = [] ∧ 10 ^ (exponent - 1) ≤ size ∧ size < 10 ^ exponent)

/-- The text without its sign that the host gives a double of a size. -/
inductive HostForm (size : ℚ) : List Char → Prop where
  | positional {whole places : List Char} (h : Positional size whole places) :
      HostForm size (whole ++ '.' :: places)
  | scientific {first : Char} {places digits : List Char} {exponent : Int}
      (h : Scientific size first places exponent digits) :
      HostForm size (first :: afterPoint places ++ 'e' :: exponentSign exponent :: digits)

/-- What holds of a text that is made from the text of a double of a size. -/
structure KeepsNumber (size : ℚ) (text made : List Char) : Prop where
  /-- Both spell the same number. -/
  number : ∃ number, spelled? text = some number ∧ spelled? made = some number
  exponent_iff : 'e' ∈ made ↔ size < 10 ^ (-4 : Int) ∨ 10 ^ 21 ≤ size
  /-- An exponent has its sign and does not begin with a zero. -/
  exponent : 'e' ∈ made → ∃ mantissa sign digits, made = mantissa ++ 'e' :: sign :: digits ∧
    'e' ∉ mantissa ∧ (sign = '+' ∨ sign = '-') ∧ AreDigits digits ∧ digits ≠ [] ∧
    digits.head? ≠ some '0'
  no_point_zero : ¬['.', '0'] <:+ made
  padding_nonneg : IsWhole size → size < 10 ^ 21 → ∀ mantissa exponent,
    Text.split 'e' text = [mantissa, exponent] → 0 ≤ padding mantissa exponent

variable {size : ℚ} {negative : Bool} {first c : Char} {text whole places digits : List Char}
  {exponent : Int}

/-! ## The characters of a text -/

theorem ne_of_isDigit (h : first.isDigit = true) (hc : c.isDigit = false) : first ≠ c := by
  rintro rfl
  rw [h] at hc
  cases hc

theorem AreDigits.not_mem (h : AreDigits text) (hc : c.isDigit = false) : c ∉ text :=
  fun hmem => ne_of_isDigit (h c hmem) hc rfl

theorem mem_signed_iff (hc : c ≠ '-') : c ∈ signed negative text ↔ c ∈ text := by
  cases negative <;> simp [signed, hc]

theorem mem_afterPoint_iff (hc : c ≠ '.') : c ∈ afterPoint places ↔ c ∈ places := by
  cases places <;> simp [afterPoint, hc]

theorem AreDigits.signed_not_mem_exponent (h : AreDigits text) : 'e' ∉ signed negative text := by
  rw [mem_signed_iff (by decide)]
  exact h.not_mem (by decide)

theorem AreDigits.not_suffix (h : AreDigits text) : ¬['.', '0'] <:+ signed negative text := by
  intro hsuffix
  have hpoint : '.' ∈ signed negative text := hsuffix.subset (by simp)
  rw [mem_signed_iff (by decide)] at hpoint
  exact h.not_mem (by decide) hpoint

theorem signed_append (negative : Bool) (text more : List Char) :
    signed negative text ++ more = signed negative (text ++ more) := by
  cases negative <;> rfl

theorem not_mem_exponent (h : AreDigits digits) : 'e' ∉ exponentSign exponent :: digits := by
  have hdigits := h.not_mem (c := 'e') (by decide)
  unfold exponentSign
  split <;> simpa using hdigits

theorem isWhole_iff (h : 0 ≤ size) : IsWhole size ↔ ∃ k : Nat, size = k := by
  constructor
  · intro hwhole
    obtain ⟨k, hk⟩ := Int.eq_ofNat_of_zero_le (Rat.num_nonneg.2 h)
    refine ⟨k, ?_⟩
    rw [← Rat.coe_int_num_of_den_eq_one hwhole, hk]
    rfl
  · rintro ⟨k, rfl⟩
    exact Rat.den_natCast k

/-! ## The parts of a mantissa -/

theorem dropWhile_minus (hfirst : first.isDigit = true) (rest : List Char) :
    (signed negative (first :: rest)).dropWhile (· == '-') = first :: rest := by
  have hne : (first == '-') = false := beq_eq_false_iff_ne.2 (ne_of_isDigit hfirst (by decide))
  cases negative <;> simp [signed, hne]

theorem wholeOf_signed (hfirst : first.isDigit = true) :
    wholeOf (signed negative (first :: afterPoint places)) = [first] := by
  have hne : (first != '.') = true := bne_iff_ne.2 (ne_of_isDigit hfirst (by decide))
  rw [wholeOf, dropWhile_minus hfirst]
  cases places <;> simp [afterPoint, hne]

theorem placesOf_signed (hfirst : first.isDigit = true) :
    placesOf (signed negative (first :: afterPoint places)) = places := by
  have hne : (first != '.') = true := bne_iff_ne.2 (ne_of_isDigit hfirst (by decide))
  rw [placesOf, dropWhile_minus hfirst]
  cases places <;> simp [afterPoint, hne]

theorem padding_signed (hfirst : first.isDigit = true) (h : AreDigits digits) (hne : digits ≠ [])
    (hvalue : Nat.ofDigitChars 10 digits 0 = exponent.natAbs) :
    padding (signed negative (first :: afterPoint places)) (exponentSign exponent :: digits) =
      exponent - places.length := by
  rw [padding, exponent?_signed h hne hvalue, placesOf_signed hfirst]
  rfl

theorem padded_signed (hfirst : first.isDigit = true) (h : AreDigits digits) (hne : digits ≠ [])
    (hvalue : Nat.ofDigitChars 10 digits 0 = exponent.natAbs) :
    padded (signed negative (first :: afterPoint places)) (exponentSign exponent :: digits) =
      signed negative (first :: places ++
        DecimalStyle.zeros (exponent - places.length).toNat) := by
  have hsign : ((signed negative (first :: afterPoint places)).head? == some '-') = negative := by
    cases negative with
    | true => rfl
    | false =>
      have hminus : first ≠ '-' := ne_of_isDigit hfirst (by decide)
      simpa [signed] using hminus
  rw [padded, hsign, wholeOf_signed hfirst, placesOf_signed hfirst,
    padding_signed hfirst h hne hvalue]
  rfl

theorem shortened_exponent (h : AreDigits digits) :
    shortened (exponentSign exponent :: digits) =
      exponentSign exponent :: digits.dropWhile (· == '0') := by
  have hdigits : digits.dropWhile (fun c => c == '+' || c == '-') = digits := by
    cases digits with
    | nil => rfl
    | cons d others =>
      have hdigit := h d List.mem_cons_self
      have hsign : (d == '+' || d == '-') = false := by
        rw [Bool.or_eq_false_iff, beq_eq_false_iff_ne, beq_eq_false_iff_ne]
        exact ⟨ne_of_isDigit hdigit (by decide), ne_of_isDigit hdigit (by decide)⟩
      simp [hsign]
  unfold exponentSign
  split <;> simp [shortened, hdigits]

/-! ## What becomes of a text -/

theorem restyled_without_exponent (h : 'e' ∉ text) :
    restyled size text =
      if IsWhole size ∧ size < 10 ^ 21 then text.take (text.length - 2) else text := by
  rw [restyled, Text.split_of_not_mem h]

theorem restyled_with_exponent {mantissa : List Char} (hmantissa : 'e' ∉ mantissa)
    (h : AreDigits digits) :
    restyled size (mantissa ++ 'e' :: exponentSign exponent :: digits) =
      if IsWhole size ∧ size < 10 ^ 21 then padded mantissa (exponentSign exponent :: digits)
      else mantissa ++ 'e' :: exponentSign exponent :: digits.dropWhile (· == '0') := by
  rw [restyled, Text.split_append _ hmantissa, Text.split_of_not_mem (not_mem_exponent h),
    ← shortened_exponent h]

/-! ## Texts without an exponent -/

namespace Positional

theorem not_mem_exponent (h : Positional size whole places) :
    'e' ∉ signed negative (whole ++ '.' :: places) := by
  rw [mem_signed_iff (by decide)]
  have hwhole := h.whole_digits.not_mem (c := 'e') (by decide)
  have hplaces := h.places_digits.not_mem (c := 'e') (by decide)
  simp [hwhole, hplaces]

theorem restyled_whole (h : Positional size whole places) (hwhole : IsWhole size) :
    restyled size (signed negative (whole ++ '.' :: places)) = signed negative whole := by
  have hbelow : size < 10 ^ 21 := h.below.trans (by norm_num)
  rw [restyled_without_exponent h.not_mem_exponent, if_pos ⟨hwhole, hbelow⟩, h.zero_iff.2 hwhole,
    ← signed_append]
  simp

theorem restyled_not_whole (h : Positional size whole places) (hnot : ¬IsWhole size) :
    restyled size (signed negative (whole ++ '.' :: places)) =
      signed negative (whole ++ '.' :: places) := by
  rw [restyled_without_exponent h.not_mem_exponent, if_neg fun hwhole => hnot hwhole.1]

theorem spelled (h : Positional size whole places) :
    spelled? (signed negative (whole ++ '.' :: places)) =
      some (withSign negative
        (Nat.ofDigitChars 10 (whole ++ places) 0 * 10 ^ (0 - places.length : Int))) := by
  have hpoint : '.' :: places = afterPoint places ++ [] := by
    obtain ⟨c, others, hplaces⟩ := List.exists_cons_of_ne_nil h.places_ne_nil
    simp [hplaces, afterPoint]
  rw [hpoint]
  exact spelled?_numeral negative h.whole_digits h.whole_ne_nil h.places_digits (by simp) rfl

/-- The zero after the point moves the digits, and the point moves them back. -/
theorem spelled_whole (h : Positional size whole places) (hwhole : IsWhole size) :
    spelled? (signed negative whole) = spelled? (signed negative (whole ++ '.' :: places)) := by
  have hmoved : (Nat.ofDigitChars 10 (whole ++ ['0']) 0 : ℚ) * 10 ^ (0 - ['0'].length : Int) =
      Nat.ofDigitChars 10 whole 0 := by
    rw [Nat.ofDigitChars_append, Nat.ofDigitChars_cons, Nat.ofDigitChars_nil]
    push_cast
    norm_num
    ring
  rw [spelled?_digits negative h.whole_digits h.whole_ne_nil, h.spelled, h.zero_iff.2 hwhole,
    hmoved]

theorem not_suffix_places (h : Positional size whole places) (hnot : ¬IsWhole size) :
    ¬['.', '0'] <:+ signed negative (whole ++ '.' :: places) := by
  rintro ⟨before, heq⟩
  have htext : signed negative (whole ++ '.' :: places) =
      signed negative (whole ++ ['.']) ++ places := by
    rw [signed_append, List.append_assoc]
    rfl
  have hend : places.getLast? = some '0' := by
    rw [← List.getLast?_append_of_ne_nil _ h.places_ne_nil, ← htext, ← heq,
      List.getLast?_append_of_ne_nil _ (by simp)]
    rfl
  exact h.last (mt h.zero_iff.1 hnot) hend

theorem keepsNumber (h : Positional size whole places) :
    KeepsNumber size (signed negative (whole ++ '.' :: places))
      (restyled size (signed negative (whole ++ '.' :: places))) := by
  have hrange : ¬(size < 10 ^ (-4 : Int) ∨ 10 ^ 21 ≤ size) := by
    have hleast := h.least
    have hbelow := h.below
    norm_num at hleast hbelow ⊢
    constructor <;> linarith
  have hpadding : ∀ mantissa exponent,
      Text.split 'e' (signed negative (whole ++ '.' :: places)) = [mantissa, exponent] →
        0 ≤ padding mantissa exponent := by
    intro mantissa exponent hsplit
    rw [Text.split_of_not_mem h.not_mem_exponent] at hsplit
    cases hsplit
  by_cases hwhole : IsWhole size
  · have hnot : 'e' ∉ signed negative whole := h.whole_digits.signed_not_mem_exponent
    rw [h.restyled_whole hwhole]
    exact ⟨⟨_, h.spelled, (h.spelled_whole hwhole).trans h.spelled⟩, iff_of_false hnot hrange,
      fun hmem => absurd hmem hnot, h.whole_digits.not_suffix, fun _ _ => hpadding⟩
  · have hnot : 'e' ∉ signed negative (whole ++ '.' :: places) := h.not_mem_exponent
    rw [h.restyled_not_whole hwhole]
    exact ⟨⟨_, h.spelled, h.spelled⟩, iff_of_false hnot hrange, fun hmem => absurd hmem hnot,
      h.not_suffix_places hwhole, fun _ _ => hpadding⟩

end Positional

/-! ## Texts with an exponent -/

theorem ofDigitChars_dropWhile (digits : List Char) :
    Nat.ofDigitChars 10 (digits.dropWhile (· == '0')) 0 = Nat.ofDigitChars 10 digits 0 := by
  induction digits with
  | nil => rfl
  | cons c digits ih =>
    by_cases hc : c = '0'
    · subst hc
      rw [Nat.ofDigitChars_cons]
      exact ih
    · simp [hc]

theorem not_suffix_exponent {mantissa : List Char} (h : AreDigits digits) (hne : digits ≠ []) :
    ¬['.', '0'] <:+ mantissa ++ 'e' :: exponentSign exponent :: digits := by
  intro hsuffix
  have hend : exponentSign exponent :: digits <:+
      mantissa ++ 'e' :: exponentSign exponent :: digits :=
    (List.suffix_cons _ _).trans (List.suffix_append _ _)
  have hlength : ['.', '0'].length ≤ (exponentSign exponent :: digits).length := by
    have := List.length_pos_iff.2 hne
    simp only [List.length_cons, List.length_nil]
    omega
  -- The end of two characters lies within the exponent, where there is no point.
  have hpoint : '.' ∈ exponentSign exponent :: digits :=
    (List.suffix_of_suffix_length_le hsuffix hend hlength).subset (by simp)
  rcases List.mem_cons.1 hpoint with hsign | hdigit
  · unfold exponentSign at hsign
    split at hsign <;> cases hsign
  · exact h.not_mem (by decide) hdigit

namespace Scientific

variable (h : Scientific size first places exponent digits)

include h

theorem digits_ne_nil : digits ≠ [] :=
  List.length_pos_iff.1 (by have := h.exponent_length; omega)

theorem not_mem_mantissa : 'e' ∉ signed negative (first :: afterPoint places) := by
  have hplaces := h.places_digits.not_mem (c := 'e') (by decide)
  have hfirst : 'e' ≠ first := (ne_of_isDigit h.first_digit (by decide)).symm
  rw [mem_signed_iff (by decide), List.mem_cons, mem_afterPoint_iff (by decide)]
  exact not_or.2 ⟨hfirst, hplaces⟩

theorem padded_digits (count : Nat) : AreDigits (first :: places ++ DecimalStyle.zeros count) := by
  intro c hc
  rcases List.mem_append.1 hc with hmantissa | hzero
  · rcases List.mem_cons.1 hmantissa with rfl | hplaces
    · exact h.first_digit
    · exact h.places_digits c hplaces
  · rw [List.eq_of_mem_replicate hzero]
    decide

/-! ### The exponent and the size -/

theorem exponent_bounds : 10 ^ (exponent - 1) ≤ size ∧ size < 10 ^ (exponent + 1) := by
  rcases h.leading with ⟨hlower, hupper⟩ | ⟨-, -, hlower, hupper⟩
  · have hstep : (10 : ℚ) ^ (exponent - 1) ≤ 10 ^ exponent :=
      zpow_le_zpow_right₀ (by norm_num) (by omega)
    exact ⟨hstep.trans hlower, hupper⟩
  · have hstep : (10 : ℚ) ^ exponent ≤ 10 ^ (exponent + 1) :=
      zpow_le_zpow_right₀ (by norm_num) (by omega)
    exact ⟨hlower, hupper.trans_le hstep⟩

theorem exponent_of_large (hsize : 10 ^ 16 ≤ size) : 16 ≤ exponent := by
  have hlarge : (10 : ℚ) ^ (16 : Int) ≤ size := by exact_mod_cast hsize
  have := lt_of_zpow_lt (hlarge.trans_lt h.exponent_bounds.2)
  omega

theorem exponent_of_small (hsize : size < 10 ^ (-4 : Int)) : exponent < 0 := by
  have := lt_of_zpow_lt (h.exponent_bounds.1.trans_lt hsize)
  omega

theorem exponent_ne_zero : exponent ≠ 0 := by
  rcases h.range with hsmall | hlarge
  · exact (h.exponent_of_small hsmall).ne
  · have := h.exponent_of_large hlarge
    omega

/-- A whole number is too large for the other notation. -/
theorem large_of_whole (hpos : 0 < size) (hwhole : IsWhole size) : 10 ^ 16 ≤ size := by
  rcases h.range with hsmall | hlarge
  · exfalso
    obtain ⟨k, rfl⟩ := (isWhole_iff hpos.le).1 hwhole
    have hk : (1 : ℚ) ≤ k := by exact_mod_cast hpos
    norm_num at hsmall
    linarith
  · exact hlarge

/-! ### What becomes of the text -/

theorem restyled_padded (hwhole : IsWhole size) (hsize : size < 10 ^ 21) :
    restyled size (signed negative
        (first :: afterPoint places ++ 'e' :: exponentSign exponent :: digits)) =
      signed negative (first :: places ++
        DecimalStyle.zeros (exponent - places.length).toNat) := by
  rw [← signed_append, restyled_with_exponent h.not_mem_mantissa h.exponent_digits,
    if_pos ⟨hwhole, hsize⟩, padded_signed h.first_digit h.exponent_digits h.digits_ne_nil
      h.exponent_value]

theorem restyled_shortened (hnot : ¬(IsWhole size ∧ size < 10 ^ 21)) :
    restyled size (signed negative
        (first :: afterPoint places ++ 'e' :: exponentSign exponent :: digits)) =
      signed negative (first :: afterPoint places ++
        'e' :: exponentSign exponent :: digits.dropWhile (· == '0')) := by
  rw [← signed_append, restyled_with_exponent h.not_mem_mantissa h.exponent_digits, if_neg hnot,
    signed_append]

/-! ### What the texts spell -/

/-- However the exponent is written, the text spells the same. -/
theorem spelled {written : List Char} (hwritten : AreDigits written) (hne : written ≠ [])
    (hvalue : Nat.ofDigitChars 10 written 0 = exponent.natAbs) :
    spelled? (signed negative
        (first :: afterPoint places ++ 'e' :: exponentSign exponent :: written)) =
      some (withSign negative
        (Nat.ofDigitChars 10 (first :: places) 0 * 10 ^ (exponent - places.length))) := by
  have hfirst : AreDigits [first] := by simpa [AreDigits] using h.first_digit
  have hmark : ∀ c ∈ ('e' :: exponentSign exponent :: written).head?,
      c.isDigit = false ∧ c ≠ '.' := by
    rintro c ⟨rfl⟩
    decide
  have hnumeral := spelled?_numeral negative hfirst (by simp) h.places_digits hmark
    (exponent?_signed hwritten hne hvalue)
  simpa using hnumeral

theorem spelled_padded (hexponent : places.length ≤ exponent) :
    spelled? (signed negative (first :: places ++
        DecimalStyle.zeros (exponent - places.length).toNat)) =
      some (withSign negative
        (Nat.ofDigitChars 10 (first :: places) 0 * 10 ^ (exponent - places.length))) := by
  obtain ⟨count, hcount⟩ := Int.eq_ofNat_of_zero_le (sub_nonneg.2 hexponent)
  have hvalue : Nat.ofDigitChars 10 (first :: places ++ DecimalStyle.zeros count) 0 =
      Nat.ofDigitChars 10 (first :: places) 0 * 10 ^ count := by
    rw [Nat.ofDigitChars_append, DecimalStyle.zeros, Nat.ofDigitChars_replicate_zero, Nat.mul_comm]
  rw [hcount, Int.toNat_natCast, zpow_natCast,
    spelled?_digits negative (h.padded_digits count) (by simp), hvalue]
  push_cast
  rfl

theorem padding_nonneg (hexponent : places.length ≤ exponent) (mantissa written : List Char)
    (hsplit : Text.split 'e' (signed negative
      (first :: afterPoint places ++ 'e' :: exponentSign exponent :: digits)) =
        [mantissa, written]) : 0 ≤ padding mantissa written := by
  rw [← signed_append, Text.split_append _ h.not_mem_mantissa,
    Text.split_of_not_mem (not_mem_exponent h.exponent_digits)] at hsplit
  cases hsplit
  rw [padding_signed h.first_digit h.exponent_digits h.digits_ne_nil h.exponent_value]
  omega

theorem keepsNumber_padded (hpos : 0 < size) (hwhole : IsWhole size) (hsize : size < 10 ^ 21) :
    KeepsNumber size
      (signed negative (first :: afterPoint places ++ 'e' :: exponentSign exponent :: digits))
      (signed negative (first :: places ++
        DecimalStyle.zeros (exponent - places.length).toNat)) := by
  have hlarge := h.large_of_whole hpos hwhole
  -- There are no more than sixteen places, and the exponent is sixteen or more.
  have hexponent : places.length ≤ exponent := by
    have := h.exponent_of_large hlarge
    have := h.significant
    omega
  have hrange : ¬(size < 10 ^ (-4 : Int) ∨ 10 ^ 21 ≤ size) := by
    norm_num
    constructor <;> linarith
  have hdigits := h.padded_digits (exponent - places.length).toNat
  have hnot : 'e' ∉ signed negative (first :: places ++
      DecimalStyle.zeros (exponent - places.length).toNat) := hdigits.signed_not_mem_exponent
  exact ⟨⟨_, h.spelled h.exponent_digits h.digits_ne_nil h.exponent_value,
    h.spelled_padded hexponent⟩, iff_of_false hnot hrange, fun hmem => absurd hmem hnot,
    hdigits.not_suffix, fun _ _ => h.padding_nonneg hexponent⟩

theorem keepsNumber_shortened (hlarge : 10 ^ 16 ≤ size → IsWhole size)
    (hnot : ¬(IsWhole size ∧ size < 10 ^ 21)) :
    KeepsNumber size
      (signed negative (first :: afterPoint places ++ 'e' :: exponentSign exponent :: digits))
      (signed negative (first :: afterPoint places ++
        'e' :: exponentSign exponent :: digits.dropWhile (· == '0'))) := by
  -- A number that is large enough for the host's exponent is whole, so it is
  -- large enough for the language's exponent, too.
  have hrange : size < 10 ^ (-4 : Int) ∨ 10 ^ 21 ≤ size := by
    rcases h.range with hsmall | hsize
    · exact .inl hsmall
    · exact .inr (not_lt.1 fun hlt => hnot ⟨hlarge hsize, hlt⟩)
  have hwritten : AreDigits (digits.dropWhile (· == '0')) :=
    fun c hc => h.exponent_digits c ((List.dropWhile_sublist _).subset hc)
  have hvalue : Nat.ofDigitChars 10 (digits.dropWhile (· == '0')) 0 = exponent.natAbs := by
    rw [ofDigitChars_dropWhile, h.exponent_value]
  -- Not all digits of the exponent are zeros, since it is not zero.
  have hne : digits.dropWhile (· == '0') ≠ [] := by
    intro hnil
    rw [hnil, Nat.ofDigitChars_nil] at hvalue
    have := h.exponent_ne_zero
    omega
  have hhead : (digits.dropWhile (· == '0')).head? ≠ some '0' := by
    intro hzero
    have hno := List.head?_dropWhile_not (· == '0') digits
    rw [hzero] at hno
    cases hno
  have hmem : 'e' ∈ signed negative (first :: afterPoint places ++
      'e' :: exponentSign exponent :: digits.dropWhile (· == '0')) := by
    rw [mem_signed_iff (by decide)]
    simp
  have hsign : exponentSign exponent = '+' ∨ exponentSign exponent = '-' := by
    unfold exponentSign
    split
    · exact .inr rfl
    · exact .inl rfl
  refine ⟨⟨_, h.spelled h.exponent_digits h.digits_ne_nil h.exponent_value,
    h.spelled hwritten hne hvalue⟩, iff_of_true hmem hrange, fun _ => ?_, ?_, ?_⟩
  · exact ⟨_, _, _, (signed_append ..).symm, h.not_mem_mantissa, hsign, hwritten, hne, hhead⟩
  · rw [← signed_append]
    exact not_suffix_exponent hwritten hne
  · exact fun hwhole hsize => absurd ⟨hwhole, hsize⟩ hnot

theorem keepsNumber (hpos : 0 < size) (hlarge : 10 ^ 16 ≤ size → IsWhole size) :
    KeepsNumber size
      (signed negative (first :: afterPoint places ++ 'e' :: exponentSign exponent :: digits))
      (restyled size (signed negative
        (first :: afterPoint places ++ 'e' :: exponentSign exponent :: digits))) := by
  by_cases hwhole : IsWhole size ∧ size < 10 ^ 21
  · rw [h.restyled_padded hwhole.1 hwhole.2]
    exact h.keepsNumber_padded hpos hwhole.1 hwhole.2
  · rw [h.restyled_shortened hwhole]
    exact h.keepsNumber_shortened hlarge hwhole

end Scientific

/-- A text of the host's form keeps its number, whatever its digits are. -/
theorem HostForm.keepsNumber {body : List Char} (h : HostForm size body) (negative : Bool)
    (hpos : 0 < size) (hlarge : 10 ^ 16 ≤ size → IsWhole size) :
    KeepsNumber size (signed negative body) (restyled size (signed negative body)) := by
  cases h with
  | positional h => exact h.keepsNumber
  | scientific h => exact h.keepsNumber hpos hlarge

end MiniLisp.Number
