import Mathlib.Algebra.Order.Field.Power
import Mathlib.Algebra.Order.Field.Rat
import Mathlib.Tactic.FieldSimp
import Mathlib.Tactic.Linarith
import Mathlib.Tactic.NormNum
import Mathlib.Tactic.Positivity
import Mathlib.Tactic.Ring
import MiniLisp.Number.Shortest

/-! # The shortest decimal of a double

    The search for the shortest decimal of a double counts in whole numbers.
    Here its steps are read as rational numbers: the two points of a grid next
    to the double are tried, and a point that is found lies no further away than
    half of the last place.

    Two things follow for every double. Seventeen digits are enough, since the
    points of that grid lie closer together than the ends of the interval. And
    the decimal tells the size of the double: it has places exactly if the
    double is not whole, and it begins below `10 ^ -4`, `10 ^ 16` or `10 ^ 21`
    exactly if the double lies below, since doubles keep apart from these powers.

    * **`Binary64.Proper`** — the parts that a finite double can have;
    * **`Decimal.Searched`** — what the search finds on one grid;
    * **`Decimal.shortest_spec`** — what the shortest decimal is;
    * **`Decimal.Shortest.whole_iff`**, **`Decimal.Shortest.le_leading_iff`** —
      how it tells the size of the double. -/

namespace MiniLisp

variable {m : Nat} {e : Int}

/-! ## Powers with whole exponents -/

theorem zpow_eq_div (base : Nat) (hbase : 0 < base) (k : Int) :
    (base : ℚ) ^ k = (Nat.pow base k.toNat : Nat) / (Nat.pow base (-k).toNat : Nat) := by
  have hne : (base : ℚ) ≠ 0 := by positivity
  have hk : (base : ℚ) ^ k = (base : ℚ) ^ ((k.toNat : Int) - (-k).toNat) := by
    congr 1
    omega
  rw [hk, zpow_sub₀ hne, zpow_natCast, zpow_natCast, Nat.pow_eq, Nat.pow_eq, Nat.cast_pow,
    Nat.cast_pow]

theorem lt_of_zpow_lt {k n : Int} (h : (10 : ℚ) ^ k < 10 ^ n) : k < n :=
  (zpow_lt_zpow_iff_right₀ (by norm_num)).1 h

/-- A power of ten is compared with a fraction by moving it to the side where it
    is whole. -/
theorem pow_le_div_iff {num den : Nat} (hden : 0 < den) (k : Int) :
    (10 : ℚ) ^ k ≤ (num : ℚ) / den ↔
      if 0 ≤ k then den * Nat.pow 10 k.toNat ≤ num else den ≤ num * Nat.pow 10 (-k).toNat := by
  have hden' : (0 : ℚ) < den := by exact_mod_cast hden
  rw [le_div_iff₀ hden']
  split
  · next hk =>
    obtain ⟨n, rfl⟩ := Int.eq_ofNat_of_zero_le hk
    rw [mul_comm]
    norm_cast
  · next hk =>
    obtain ⟨n, hn⟩ := Int.eq_ofNat_of_zero_le (show 0 ≤ -k by omega)
    have hpow : (0 : ℚ) < 10 ^ n := by positivity
    rw [hn, show k = -(n : Int) by omega, zpow_neg, zpow_natCast, inv_mul_le_iff₀ hpow, mul_comm]
    norm_cast

/-! ## Decimal lengths -/

theorem lt_pow_decimalLength (n : Nat) : n < 10 ^ decimalLength n :=
  (Nat.length_toDigits_le_iff (by decide) Nat.length_toDigits_pos).1 le_rfl

theorem decimalLength_pos (n : Nat) : 0 < decimalLength n :=
  Nat.length_toDigits_pos

theorem pow_decimalLength_le {n : Nat} (hn : 0 < n) : 10 ^ (decimalLength n - 1) ≤ n := by
  rcases Nat.eq_zero_or_pos (decimalLength n - 1) with hzero | hpos
  · rw [hzero]
    exact hn
  · by_contra hlt
    have hle := (Nat.length_toDigits_le_iff (b := 10) (by decide) hpos).2 (not_le.1 hlt)
    have := decimalLength_pos n
    unfold decimalLength at *
    omega

theorem decimalLength_eq {n k : Nat} (hle : 10 ^ k ≤ n) (hlt : n < 10 ^ (k + 1)) :
    decimalLength n = k + 1 := by
  have hupper : decimalLength n ≤ k + 1 :=
    (Nat.length_toDigits_le_iff (by decide) (by omega)).2 hlt
  have hlower : k < decimalLength n := by
    by_contra h
    have := Nat.pow_le_pow_right (n := 10) (by decide) (not_lt.1 h)
    have := lt_pow_decimalLength n
    omega
  omega

/-- The lengths of numerator and denominator leave two exponents open, and a
    comparison settles which it is. -/
theorem decimalExponent_spec {num den : Nat} (hnum : 0 < num) (hden : 0 < den) :
    (10 : ℚ) ^ decimalExponent num den ≤ (num : ℚ) / den ∧
      (num : ℚ) / den < 10 ^ (decimalExponent num den + 1) := by
  have hden' : (0 : ℚ) < den := by exact_mod_cast hden
  have hlower : (10 : ℚ) ^ ((decimalLength num : Int) - decimalLength den - 1) ≤ num / den := by
    have hnumer : (10 : ℚ) ^ (decimalLength num - 1) ≤ num := by
      exact_mod_cast pow_decimalLength_le hnum
    have hdenom : (den : ℚ) ≤ 10 ^ decimalLength den := by
      exact_mod_cast (lt_pow_decimalLength den).le
    have hsplit : (decimalLength num : Int) - decimalLength den - 1 =
        ((decimalLength num - 1 : Nat) : Int) - (decimalLength den : Nat) := by
      have := decimalLength_pos num
      omega
    rw [hsplit, zpow_sub₀ (by norm_num), zpow_natCast, zpow_natCast]
    exact div_le_div₀ (by positivity) hnumer hden' hdenom
  have hupper : (num : ℚ) / den < 10 ^ ((decimalLength num : Int) - decimalLength den + 1) := by
    have hnumer : (num : ℚ) < 10 ^ decimalLength num := by
      exact_mod_cast lt_pow_decimalLength num
    have hdenom : (10 : ℚ) ^ (decimalLength den - 1) ≤ den := by
      exact_mod_cast pow_decimalLength_le hden
    have hsplit : (decimalLength num : Int) - decimalLength den + 1 =
        ((decimalLength num : Nat) : Int) - (decimalLength den - 1 : Nat) := by
      have := decimalLength_pos den
      omega
    rw [hsplit, zpow_sub₀ (by norm_num), zpow_natCast, zpow_natCast]
    exact div_lt_div₀ hnumer hdenom (by positivity) (by positivity)
  unfold decimalExponent
  simp only [← pow_le_div_iff hden]
  split
  · next hreached => exact ⟨hreached, hupper⟩
  · next hreached => exact ⟨hlower, by simpa using hreached⟩

/-! ## The values of decimals -/

namespace Decimal

/-- The number that a decimal stands for. -/
def value (d : Decimal) : ℚ :=
  d.digits * 10 ^ d.exponent

theorem value_bounds {d : Decimal} (h : 0 < d.digits) :
    (10 : ℚ) ^ d.leading ≤ d.value ∧ d.value < 10 ^ (d.leading + 1) := by
  have hstep : (0 : ℚ) < 10 ^ d.exponent := by positivity
  have hlower : (10 : ℚ) ^ (decimalLength d.digits - 1) ≤ d.digits := by
    exact_mod_cast pow_decimalLength_le h
  have hupper : (d.digits : ℚ) < 10 ^ decimalLength d.digits := by
    exact_mod_cast lt_pow_decimalLength d.digits
  have hlength := decimalLength_pos d.digits
  have hleading : d.leading = ((decimalLength d.digits - 1 : Nat) : Int) + d.exponent := by
    unfold leading
    omega
  have hnext : d.leading + 1 = (decimalLength d.digits : Int) + d.exponent := by
    unfold leading
    omega
  rw [hnext, hleading, zpow_add₀ (by norm_num), zpow_add₀ (by norm_num), zpow_natCast, zpow_natCast]
  exact ⟨mul_le_mul_of_nonneg_right hlower hstep.le, mul_lt_mul_of_pos_right hupper hstep⟩

/-- Digits that end in no zero and make a power of ten are a single one. -/
theorem digits_eq_one {d : Decimal} (hlast : d.digits % 10 ≠ 0)
    (h : d.value = 10 ^ d.leading) : d.digits = 1 := by
  have hlength := decimalLength_pos d.digits
  have hpow : d.digits = 10 ^ (decimalLength d.digits - 1) := by
    have hleading : d.leading = ((decimalLength d.digits - 1 : Nat) : Int) + d.exponent := by
      unfold leading
      omega
    rw [value, hleading, zpow_add₀ (by norm_num), zpow_natCast] at h
    exact_mod_cast mul_right_cancel₀ (by positivity) h
  have hone : decimalLength d.digits - 1 = 0 := by
    by_contra hne
    obtain ⟨k, hk⟩ := Nat.exists_eq_succ_of_ne_zero hne
    rw [hk, Nat.pow_succ] at hpow
    omega
  rw [hpow, hone, pow_zero]

theorem trim_value (digits : Nat) (exponent : Int) :
    (trim digits exponent).value = digits * 10 ^ exponent := by
  fun_induction trim digits exponent with
  | case1 digits exponent h ih =>
    have hdigits : (digits : ℚ) = (digits / 10 : Nat) * 10 := by
      exact_mod_cast show digits = digits / 10 * 10 by omega
    rw [ih, zpow_add_one₀ (by norm_num), hdigits]
    ring
  | case2 digits exponent h => rfl

theorem trim_last {digits : Nat} (exponent : Int) (hdigits : 0 < digits) :
    (trim digits exponent).digits % 10 ≠ 0 := by
  fun_induction trim digits exponent with
  | case1 digits exponent h ih => exact ih (by omega)
  | case2 digits exponent h => exact fun hlast => h ⟨hdigits, hlast⟩

theorem le_exponent_trim (digits : Nat) (exponent : Int) :
    exponent ≤ (trim digits exponent).exponent := by
  fun_induction trim digits exponent with
  | case1 digits exponent h ih => omega
  | case2 digits exponent h => exact le_rfl

theorem trim_leading (digits : Nat) (exponent : Int) :
    (trim digits exponent).leading = (decimalLength digits : Int) - 1 + exponent := by
  fun_induction trim digits exponent with
  | case1 digits exponent h ih =>
    have hlength : decimalLength digits = decimalLength (digits / 10) + 1 := by
      rw [decimalLength, Nat.toDigits_of_base_le (by decide) (by omega), List.length_append,
        List.length_singleton, ← decimalLength]
    rw [ih, hlength]
    push_cast
    ring
  | case2 digits exponent h => rfl

end Decimal

/-! ## Finite doubles -/

namespace Binary64

/-- The number `significand · 2 ^ exponent`. -/
def size (significand : Nat) (exponent : Int) : ℚ :=
  significand * 2 ^ exponent

/-- The parts that a finite double other than zero can have. -/
structure Proper (significand : Nat) (exponent : Int) : Prop where
  pos : 0 < significand
  lt : significand < 2 ^ 53
  least : -1074 ≤ exponent
  /-- Above the least exponent the significand has all its bits. -/
  full : -1074 < exponent → 2 ^ 52 ≤ significand

theorem proper_of_parts {x : Float} {negative : Bool} (h : parts x = .finite negative m e)
    (hm : m ≠ 0) : Proper m e := by
  unfold parts partsOfBits at h
  simp only [Nat.pow_eq] at h
  split at h
  · split at h <;> cases h
  · split at h
    · cases h
      exact ⟨by omega, by omega, by omega, by omega⟩
    · cases h
      exact ⟨by omega, by omega, by omega, by omega⟩

theorem size_pos (h : Proper m e) : 0 < size m e := by
  have hm : (0 : ℚ) < m := by exact_mod_cast h.pos
  unfold size
  positivity

theorem ratio_pos (h : 0 < m) : 0 < (ratio m e).1 ∧ 0 < (ratio m e).2 := by
  unfold ratio
  split
  · exact ⟨Nat.mul_pos h (Nat.pow_pos (by decide)), Nat.one_pos⟩
  · exact ⟨h, Nat.pow_pos (by decide)⟩

theorem ratio_eq (m : Nat) (e : Int) : ((ratio m e).1 : ℚ) / (ratio m e).2 = size m e := by
  have htwo := zpow_eq_div 2 (by decide) e
  unfold ratio size
  push_cast at htwo
  rw [htwo]
  split
  · next he =>
    rw [show (-e).toNat = 0 by omega]
    push_cast
    simp
  · next he =>
    rw [show e.toNat = 0 by omega]
    simp [div_eq_mul_inv]

/-- From `2 ^ 53` on there is nothing between whole numbers. -/
theorem whole_of_large (h : Proper m e) (hsize : 2 ^ 53 ≤ size m e) :
    ∃ k : Nat, size m e = k := by
  rcases le_or_gt 0 e with hwhole | hfraction
  · obtain ⟨n, rfl⟩ := Int.eq_ofNat_of_zero_le hwhole
    refine ⟨m * 2 ^ n, ?_⟩
    rw [size, zpow_natCast]
    push_cast
    rfl
  · exfalso
    have hm : (m : ℚ) < 2 ^ 53 := by exact_mod_cast h.lt
    have hstep : (2 : ℚ) ^ e ≤ 1 := zpow_le_one_of_nonpos₀ (by norm_num) hfraction.le
    have hproduct : (m : ℚ) * 2 ^ e ≤ m := mul_le_of_le_one_right (by positivity) hstep
    unfold size at hsize
    linarith

end Binary64

namespace Decimal

theorem leadingOf_spec (h : 0 < m) :
    (10 : ℚ) ^ leadingOf m e ≤ Binary64.size m e ∧
      Binary64.size m e < 10 ^ (leadingOf m e + 1) := by
  obtain ⟨hnum, hden⟩ := Binary64.ratio_pos (e := e) h
  rw [← Binary64.ratio_eq]
  exact decimalExponent_spec hnum hden

/-! ## The steps of the search -/

/-- The distance of the points of a grid, in the unit that the search counts in. -/
def gridStep (e place : Int) : Nat :=
  Nat.pow 10 place.toNat * Nat.pow 2 (-(e - 2)).toNat

/-- A quarter of the last place of a double, in the unit that the search counts in. -/
def quarterStep (e place : Int) : Nat :=
  Nat.pow 2 (e - 2).toNat * Nat.pow 10 (-place).toNat

theorem gridStep_pos (e place : Int) : 0 < gridStep e place :=
  Nat.mul_pos (Nat.pow_pos (by decide)) (Nat.pow_pos (by decide))

theorem quarterStep_pos (e place : Int) : 0 < quarterStep e place :=
  Nat.mul_pos (Nat.pow_pos (by decide)) (Nat.pow_pos (by decide))

/-- The unit makes both steps whole. -/
theorem steps_eq (e place : Int) : ∃ unit : ℚ, 0 < unit ∧
    (gridStep e place : ℚ) = 10 ^ place * unit ∧
      (quarterStep e place : ℚ) = 2 ^ (e - 2) * unit := by
  have hten := zpow_eq_div 10 (by decide) place
  have htwo := zpow_eq_div 2 (by decide) (e - 2)
  push_cast [Nat.pow_eq] at hten htwo
  refine ⟨2 ^ (-(e - 2)).toNat * 10 ^ (-place).toNat, by positivity, ?_, ?_⟩
  · rw [hten, gridStep]
    push_cast [Nat.pow_eq]
    field_simp
  · rw [htwo, quarterStep]
    push_cast [Nat.pow_eq]
    field_simp

theorem quarters_le_iff (e place : Int) (quarters point : Nat) :
    quarters * quarterStep e place ≤ point * gridStep e place ↔
      (quarters : ℚ) * 2 ^ (e - 2) ≤ point * 10 ^ place := by
  obtain ⟨unit, hunit, hgrid, hquarter⟩ := steps_eq e place
  rw [← Nat.cast_le (α := ℚ), Nat.cast_mul, Nat.cast_mul, hgrid, hquarter, ← mul_assoc, ← mul_assoc]
  exact mul_le_mul_iff_left₀ hunit

theorem le_quarters_iff (e place : Int) (quarters point : Nat) :
    point * gridStep e place ≤ quarters * quarterStep e place ↔
      (point : ℚ) * 10 ^ place ≤ quarters * 2 ^ (e - 2) := by
  obtain ⟨unit, hunit, hgrid, hquarter⟩ := steps_eq e place
  rw [← Nat.cast_le (α := ℚ), Nat.cast_mul, Nat.cast_mul, hgrid, hquarter, ← mul_assoc, ← mul_assoc]
  exact mul_le_mul_iff_left₀ hunit

theorem size_eq_quarters (m : Nat) (e : Int) :
    Binary64.size m e = ((4 * m : Nat) : ℚ) * 2 ^ (e - 2) := by
  rw [Binary64.size, zpow_sub₀ (by norm_num)]
  push_cast
  ring

theorem two_quarters (e : Int) : 2 * (2 : ℚ) ^ (e - 2) = 2 ^ e / 2 := by
  rw [zpow_sub₀ (by norm_num)]
  norm_num
  ring

/-! ## The interval of a double -/

/-- How many quarters of the last place a decimal may lie below a double and read
    back as it. -/
def quartersBelow (m : Nat) (e : Int) : Nat :=
  if m = Nat.pow 2 52 ∧ -1074 < e then 1 else 2

theorem quartersBelow_bounds (m : Nat) (e : Int) :
    0 < quartersBelow m e ∧ quartersBelow m e ≤ 2 := by
  unfold quartersBelow
  split <;> omega

/-- The least number that may read back as a double. -/
def lowerEnd (m : Nat) (e : Int) : ℚ :=
  ((4 * m - quartersBelow m e : Nat) : ℚ) * 2 ^ (e - 2)

/-- The greatest number that may read back as a double. -/
def upperEnd (m : Nat) (e : Int) : ℚ :=
  ((4 * m + 2 : Nat) : ℚ) * 2 ^ (e - 2)

theorem lowerEnd_eq (h : 0 < m) (e : Int) :
    lowerEnd m e = Binary64.size m e - quartersBelow m e * 2 ^ (e - 2) := by
  have hle : quartersBelow m e ≤ 4 * m := by
    have := quartersBelow_bounds m e
    omega
  rw [size_eq_quarters, lowerEnd, Nat.cast_sub hle]
  ring

theorem upperEnd_eq (m : Nat) (e : Int) :
    upperEnd m e = Binary64.size m e + 2 * 2 ^ (e - 2) := by
  rw [size_eq_quarters, upperEnd]
  push_cast
  ring

/-- Whether a point lies in the interval of a double; the ends belong to it for
    even significands. -/
def inside (m lower upper point : Nat) : Bool :=
  if m % 2 = 0 then lower ≤ point && point ≤ upper else lower < point && point < upper

theorem inside_bounds {lower upper point : Nat} (h : inside m lower upper point = true) :
    lower ≤ point ∧ point ≤ upper := by
  unfold inside at h
  split at h <;> simp at h <;> omega

theorem outside_bounds {lower upper point : Nat} (h : inside m lower upper point = false) :
    point ≤ lower ∨ upper ≤ point := by
  unfold inside at h
  split at h <;> simp at h <;> omega

theorem ends_of_inside {place : Int} {point : Nat}
    (h : inside m ((4 * m - quartersBelow m e) * quarterStep e place)
      ((4 * m + 2) * quarterStep e place) (point * gridStep e place) = true) :
    lowerEnd m e ≤ point * 10 ^ place ∧ point * 10 ^ place ≤ upperEnd m e := by
  obtain ⟨hlower, hupper⟩ := inside_bounds h
  exact ⟨(quarters_le_iff ..).1 hlower, (le_quarters_iff ..).1 hupper⟩

/-! ## The points of one grid -/

theorem onGrid_eq (m : Nat) (e place : Int) :
    onGrid m e place =
      let value := 4 * m * quarterStep e place
      let below := value / gridStep e place
      let lower := (4 * m - quartersBelow m e) * quarterStep e place
      let upper := (4 * m + 2) * quarterStep e place
      match inside m lower upper (below * gridStep e place),
        inside m lower upper ((below + 1) * gridStep e place) with
      | true, true => some (roundHalfEven value (gridStep e place))
      | true, false => some below
      | false, true => some (below + 1)
      | false, false => none :=
  rfl

/-- What the search finds on a grid: one of the two neighbours of the double, in
    its interval. If it finds nothing, both lie outside. -/
structure Searched (m : Nat) (e place : Int) (below : Nat) : Prop where
  below_le : (below : ℚ) * 10 ^ place ≤ Binary64.size m e
  lt_above : Binary64.size m e < (below + 1 : Nat) * 10 ^ place
  found : ∀ point, onGrid m e place = some point → (point = below ∨ point = below + 1) ∧
    lowerEnd m e ≤ point * 10 ^ place ∧ point * 10 ^ place ≤ upperEnd m e
  missed : onGrid m e place = none →
    below * 10 ^ place ≤ lowerEnd m e ∧ upperEnd m e ≤ (below + 1 : Nat) * 10 ^ place

theorem exists_searched (m : Nat) (e place : Int) : ∃ below, Searched m e place below := by
  have hbelow := Nat.div_mul_le_self (4 * m * quarterStep e place) (gridStep e place)
  have habove : 4 * m * quarterStep e place <
      (4 * m * quarterStep e place / gridStep e place + 1) * gridStep e place := by
    rw [Nat.add_one_mul (_ / _)]
    exact Nat.lt_div_mul_add (gridStep_pos e place)
  have hrounded := roundHalfEven_bounds (4 * m * quarterStep e place) (gridStep e place)
  generalize hb : 4 * m * quarterStep e place / gridStep e place = below at *
  have hlow : (4 * m - quartersBelow m e) * quarterStep e place ≤ 4 * m * quarterStep e place :=
    Nat.mul_le_mul_right _ (Nat.sub_le _ _)
  have hhigh : 4 * m * quarterStep e place < (4 * m + 2) * quarterStep e place :=
    Nat.mul_lt_mul_of_pos_right (by omega) (quarterStep_pos e place)
  refine ⟨below, ?_, ?_, ?_, ?_⟩
  · rw [size_eq_quarters]
    exact (le_quarters_iff ..).1 hbelow
  · rw [size_eq_quarters, ← not_le, ← le_quarters_iff]
    exact not_le.2 habove
  · intro point hpoint
    rw [onGrid_eq] at hpoint
    simp only [hb] at hpoint
    split at hpoint <;> cases hpoint
    · next hin hin' =>
      -- Of two points in the interval the nearer one is taken.
      have heither : roundHalfEven (4 * m * quarterStep e place) (gridStep e place) = below ∨
          roundHalfEven (4 * m * quarterStep e place) (gridStep e place) = below + 1 := by
        omega
      refine ⟨heither, ?_⟩
      rcases heither with heq | heq
      · rw [heq]
        exact ends_of_inside hin
      · rw [heq]
        exact ends_of_inside hin'
    · next hin _ => exact ⟨.inl rfl, ends_of_inside hin⟩
    · next hin => exact ⟨.inr rfl, ends_of_inside hin⟩
  · intro hnone
    rw [onGrid_eq] at hnone
    simp only [hb] at hnone
    split at hnone <;> cases hnone
    next hout hout' =>
      have hlower := outside_bounds hout
      have hupper := outside_bounds hout'
      constructor
      · refine (le_quarters_iff ..).1 ?_
        omega
      · refine (quarters_le_iff ..).1 ?_
        omega

/-- A double that lies on a grid is found on it. -/
theorem onGrid_ne_none_of_eq (h : Binary64.Proper m e) {place : Int} {point : Nat}
    (hsize : Binary64.size m e = point * 10 ^ place) : onGrid m e place ≠ none := by
  intro hnone
  obtain ⟨below, hsearched⟩ := exists_searched m e place
  obtain ⟨hlower, hupper⟩ := hsearched.missed hnone
  have hquarter : (0 : ℚ) < 2 ^ (e - 2) := by positivity
  have hstep : (0 : ℚ) < 10 ^ place := by positivity
  have hcount : (0 : ℚ) < quartersBelow m e := by
    exact_mod_cast (quartersBelow_bounds m e).1
  have hgap := mul_pos hcount hquarter
  rw [lowerEnd_eq h.pos, hsize] at hlower
  rw [upperEnd_eq, hsize] at hupper
  have hbelow : (below : ℚ) * 10 ^ place < point * 10 ^ place := by linarith
  have habove : (point : ℚ) * 10 ^ place < (below + 1 : Nat) * 10 ^ place := by linarith
  rw [mul_lt_mul_iff_left₀ hstep] at hbelow habove
  have hbelow' : below < point := by exact_mod_cast hbelow
  have habove' : point < below + 1 := by exact_mod_cast habove
  omega

/-- Seventeen digits are enough. -/
theorem onGrid_ne_none_of_seventeen (h : Binary64.Proper m e) :
    onGrid m e (leadingOf m e - 16) ≠ none := by
  intro hnone
  obtain ⟨below, hsearched⟩ := exists_searched m e (leadingOf m e - 16)
  obtain ⟨hlower, hupper⟩ := hsearched.missed hnone
  have hquarter : (0 : ℚ) < 2 ^ (e - 2) := by positivity
  have hleading := (leadingOf_spec (e := e) h.pos).1
  have hstep : (10 : ℚ) ^ leadingOf m e = 10 ^ (leadingOf m e - 16) * 10 ^ 16 := by
    rw [zpow_sub₀ (by norm_num)]
    norm_num
  rw [size_eq_quarters, hstep] at hleading
  rw [lowerEnd_eq h.pos] at hlower
  rw [upperEnd_eq] at hupper
  push_cast at hleading hupper
  -- The interval is four quarters wide, and three for the least significand.
  by_cases hleast : m = 2 ^ 52 ∧ -1074 < e
  · have hcount : quartersBelow m e = 1 := if_pos hleast
    have hm : (m : ℚ) = 2 ^ 52 := by exact_mod_cast hleast.1
    rw [hcount] at hlower
    rw [hm] at hleading
    push_cast at hlower
    linarith
  · have hcount : quartersBelow m e = 2 := if_neg hleast
    have hm : (m : ℚ) ≤ 2 ^ 53 := by exact_mod_cast h.lt.le
    have hproduct := mul_le_mul_of_nonneg_right hm hquarter.le
    rw [hcount] at hlower
    push_cast at hlower
    linarith

section points

variable {point extra : Nat}

/-- On the grid with `extra` more digits the double lies between `10 ^ extra` and
    `10 ^ (extra + 1)` points above zero. -/
theorem point_bounds (h : 0 < m) (hpoint : onGrid m e (leadingOf m e - extra) = some point) :
    10 ^ extra ≤ point ∧ point ≤ 10 ^ (extra + 1) := by
  obtain ⟨below, hsearched⟩ := exists_searched m e (leadingOf m e - extra)
  have heither := (hsearched.found point hpoint).1
  obtain ⟨htop, htop'⟩ := leadingOf_spec (e := e) h
  have hstep : (0 : ℚ) < 10 ^ (leadingOf m e - extra) := by positivity
  have hpow : (10 : ℚ) ^ leadingOf m e = (10 ^ extra : Nat) * 10 ^ (leadingOf m e - extra) := by
    rw [zpow_sub₀ (by norm_num), zpow_natCast]
    push_cast
    field_simp
  have hbelow : 10 ^ extra < below + 1 := by
    have hlt := htop.trans_lt hsearched.lt_above
    rw [hpow, mul_lt_mul_iff_left₀ hstep] at hlt
    exact_mod_cast hlt
  have habove : below < 10 ^ (extra + 1) := by
    have hlt := hsearched.below_le.trans_lt htop'
    rw [zpow_add_one₀ (by norm_num), hpow, mul_right_comm, mul_lt_mul_iff_left₀ hstep] at hlt
    rw [Nat.pow_succ]
    exact_mod_cast hlt
  omega

theorem point_near (h : 0 < m) {place : Int} (hpoint : onGrid m e place = some point) :
    Binary64.size m e - 2 ^ e / 2 ≤ point * 10 ^ place ∧
      point * 10 ^ place ≤ Binary64.size m e + 2 ^ e / 2 := by
  obtain ⟨below, hsearched⟩ := exists_searched m e place
  obtain ⟨hlower, hupper⟩ := (hsearched.found point hpoint).2
  have hcount : (quartersBelow m e : ℚ) ≤ 2 := by exact_mod_cast (quartersBelow_bounds m e).2
  have hquarter : (0 : ℚ) ≤ 2 ^ (e - 2) := by positivity
  have hgap := mul_le_mul_of_nonneg_right hcount hquarter
  rw [lowerEnd_eq h] at hlower
  rw [upperEnd_eq] at hupper
  rw [← two_quarters]
  exact ⟨by linarith, hupper⟩

/-- A point begins where the double does, unless it is the power of ten above. -/
theorem leading_trim (h : 0 < m) (hpoint : onGrid m e (leadingOf m e - extra) = some point) :
    (trim point (leadingOf m e - extra)).leading = leadingOf m e ∨
      (trim point (leadingOf m e - extra)).leading = leadingOf m e + 1 ∧
        (trim point (leadingOf m e - extra)).digits = 1 := by
  obtain ⟨hlower, hupper⟩ := point_bounds h hpoint
  have hpos : 0 < point := (Nat.pow_pos (by decide)).trans_le hlower
  rcases hupper.lt_or_eq with hlt | heq
  · left
    rw [trim_leading, decimalLength_eq hlower hlt]
    push_cast
    ring
  · right
    have hlength : decimalLength point = extra + 1 + 1 :=
      decimalLength_eq heq.ge (by rw [heq]; exact Nat.pow_lt_pow_right (by decide) (by omega))
    have hleading : (trim point (leadingOf m e - extra)).leading = leadingOf m e + 1 := by
      rw [trim_leading, hlength]
      push_cast
      ring
    refine ⟨hleading, digits_eq_one (trim_last _ hpos) ?_⟩
    rw [trim_value, hleading, heq]
    push_cast
    rw [← zpow_natCast, ← zpow_add₀ (by norm_num)]
    congr 1
    push_cast
    ring

/-- A whole double lies on the grid of whole numbers, so it is found there if not
    before. -/
theorem place_nonneg_of_whole (h : Binary64.Proper m e) {k : Nat} (hsize : Binary64.size m e = k)
    (hfirst : ∀ fewer : Nat, fewer < extra → onGrid m e (leadingOf m e - fewer) = none) :
    0 ≤ leadingOf m e - extra := by
  have hone : (1 : ℚ) ≤ Binary64.size m e := by
    have hpos := Binary64.size_pos h
    rw [hsize] at hpos ⊢
    exact_mod_cast hpos
  have htop : 0 ≤ leadingOf m e := by
    have hlt := hone.trans_lt (leadingOf_spec (e := e) h.pos).2
    have := (one_lt_zpow_iff_right₀ (by norm_num : (1 : ℚ) < 10)).1 hlt
    omega
  by_contra hneg
  obtain ⟨fewer, hfewer⟩ := Int.eq_ofNat_of_zero_le htop
  have hnone := hfirst fewer (by omega)
  rw [hfewer, sub_self] at hnone
  exact onGrid_ne_none_of_eq h (by simpa using hsize) hnone

end points

/-! ## The shortest decimal -/

/-- The shortest decimal lies on the first grid on which one is found. -/
theorem exists_shortest_eq (h : Binary64.Proper m e) : ∃ extra point : Nat, extra ≤ 16 ∧
    onGrid m e (leadingOf m e - extra) = some point ∧
    shortest m e = trim point (leadingOf m e - extra) ∧
    ∀ fewer : Nat, fewer < extra → onGrid m e (leadingOf m e - fewer) = none := by
  let found (extra : Nat) : Option Decimal :=
    (onGrid m e (leadingOf m e - extra)).map fun digits => trim digits (leadingOf m e - extra)
  have hsome : ((List.range 17).findSome? found).isSome = true := by
    rw [List.findSome?_isSome_iff]
    refine ⟨16, by simp, ?_⟩
    have hfound := onGrid_ne_none_of_seventeen h
    simpa [found, Option.isSome_iff_ne_none] using hfound
  obtain ⟨d, hd⟩ := Option.isSome_iff_exists.1 hsome
  have hshortest : shortest m e = d := by
    have hdef : shortest m e = ((List.range 17).findSome? found).getD ⟨m, 0⟩ := rfl
    rw [hdef, hd]
    rfl
  obtain ⟨before, extra, after, hrange, hat, hbefore⟩ := List.findSome?_eq_some_iff.1 hd
  obtain ⟨point, hpoint, htrim⟩ := Option.map_eq_some_iff.1 hat
  have hmem : extra ∈ List.range 17 := by simp [hrange]
  refine ⟨extra, point, by simpa [Nat.lt_succ_iff] using hmem, hpoint, ?_, ?_⟩
  · rw [hshortest, htrim]
  · -- Fewer digits are tried before: they do not come after in ascending order.
    intro fewer hfewer
    have hsorted := List.pairwise_lt_range (n := 17)
    rw [hrange, List.pairwise_append] at hsorted
    have hfewer' : fewer ∈ before ++ extra :: after := by
      rw [← hrange]
      simp at hmem ⊢
      omega
    rcases List.mem_append.1 hfewer' with hmem' | hmem'
    · simpa [found] using hbefore fewer hmem'
    · rcases List.mem_cons.1 hmem' with rfl | hafter
      · omega
      · have := (List.pairwise_cons.1 hsorted.2.1).1 fewer hafter
        omega

/-- What is known of the shortest decimal of a double. -/
structure Shortest (m : Nat) (e : Int) (d : Decimal) : Prop where
  pos : 0 < d.digits
  /-- No zero stands at the end of its digits. -/
  last : d.digits % 10 ≠ 0
  length_le : decimalLength d.digits ≤ 17
  /-- It begins where the double does, or it is the power of ten above. -/
  leading : d.leading = leadingOf m e ∨ d.leading = leadingOf m e + 1 ∧ d.digits = 1
  /-- It is no further from the double than half of the last place. -/
  lower : Binary64.size m e - 2 ^ e / 2 ≤ d.value
  upper : d.value ≤ Binary64.size m e + 2 ^ e / 2
  /-- A whole double is written without places. -/
  whole : ∀ k : Nat, Binary64.size m e = k → 0 ≤ d.exponent

theorem shortest_spec (h : Binary64.Proper m e) : Shortest m e (shortest m e) := by
  obtain ⟨extra, point, hextra, hpoint, hshortest, hfirst⟩ := exists_shortest_eq h
  have hpos : 0 < point := (Nat.pow_pos (by decide)).trans_le (point_bounds h.pos hpoint).1
  have hlast := trim_last (leadingOf m e - extra) hpos
  have hleading := leading_trim h.pos hpoint
  have hexponent := le_exponent_trim point (leadingOf m e - extra)
  have hnear := point_near h.pos hpoint
  rw [← trim_value] at hnear
  rw [hshortest]
  generalize trim point (leadingOf m e - extra) = d at *
  have hlength : decimalLength d.digits ≤ 17 := by
    rcases hleading with heq | ⟨-, hone⟩
    · unfold leading at heq
      omega
    · rw [hone]
      decide
  have hdigits : 0 < d.digits := by
    by_contra hzero
    exact hlast (by simp [Nat.eq_zero_of_not_pos hzero])
  have hwhole : ∀ k : Nat, Binary64.size m e = k → 0 ≤ d.exponent := fun k hk =>
    (place_nonneg_of_whole h hk hfirst).trans hexponent
  exact ⟨hdigits, hlast, hlength, hleading, hnear.1, hnear.2, hwhole⟩

namespace Shortest

variable {d : Decimal}

/-- A decimal without places lies on a whole number, which is the double. -/
theorem whole_of_exponent (h : Shortest m e d) (hexponent : 0 ≤ d.exponent) :
    ∃ k : Nat, Binary64.size m e = k := by
  obtain ⟨places, hplaces⟩ := Int.eq_ofNat_of_zero_le hexponent
  have hvalue : d.value = (d.digits * 10 ^ places : Nat) := by
    rw [value, hplaces, zpow_natCast]
    push_cast
    rfl
  rcases le_or_gt 0 e with hwhole | hfraction
  · obtain ⟨n, rfl⟩ := Int.eq_ofNat_of_zero_le hwhole
    refine ⟨m * 2 ^ n, ?_⟩
    rw [Binary64.size, zpow_natCast]
    push_cast
    rfl
  · obtain ⟨n, hn⟩ := Int.eq_ofNat_of_zero_le (show 0 ≤ -e by omega)
    refine ⟨d.digits * 10 ^ places, ?_⟩
    have hlower := h.lower
    have hupper := h.upper
    have hpow : (0 : ℚ) < 2 ^ n := by positivity
    rw [hvalue, Binary64.size, show e = -(n : Int) by omega, zpow_neg, zpow_natCast]
      at hlower hupper
    rw [Binary64.size, show e = -(n : Int) by omega, zpow_neg, zpow_natCast]
    generalize d.digits * 10 ^ places = k at *
    -- In steps of the last place the double is `m`, and `k` is within half a step.
    have hlower' : (m : ℚ) - 1 / 2 ≤ k * 2 ^ n := by
      field_simp at hlower
      linarith
    have hupper' : (k : ℚ) * 2 ^ n ≤ m + 1 / 2 := by
      field_simp at hupper
      linarith
    have hle : m < k * 2 ^ n + 1 := by
      have : (m : ℚ) < k * 2 ^ n + 1 := by linarith
      exact_mod_cast this
    have hge : k * 2 ^ n < m + 1 := by
      have : (k : ℚ) * 2 ^ n < m + 1 := by linarith
      exact_mod_cast this
    have heq : (m : ℚ) = k * 2 ^ n := by exact_mod_cast show m = k * 2 ^ n by omega
    rw [heq]
    field_simp

/-- The shortest decimal has places exactly if its double is not whole. -/
theorem whole_iff (h : Shortest m e d) :
    0 ≤ d.exponent ↔ ∃ k : Nat, Binary64.size m e = k :=
  ⟨h.whole_of_exponent, fun ⟨k, hk⟩ => h.whole k hk⟩

end Shortest

/-! ## Powers of ten between doubles -/

/-- Doubles keep apart from a power of ten: half a step above one that lies below
    the power is still below it. -/
def Apart (power : Int) : Prop :=
  ∀ m e, Binary64.Proper m e → Binary64.size m e < 10 ^ power →
    Binary64.size m e + 2 ^ e / 2 < 10 ^ power

/-- It is enough that `next` steps of `2 ^ place`, the first double that is not
    below the power, is less than half a step away from it. -/
theorem apart_of_next {power : Int} (place : Int) (next : Nat) (hplace : -1074 ≤ place)
    (hlower : (2 : ℚ) ^ (place + 52) ≤ 10 ^ power) (hupper : (10 : ℚ) ^ power ≤ 2 ^ (place + 53))
    (hnext : (10 : ℚ) ^ power ≤ next * 2 ^ place)
    (hhalf : ((next : ℚ) - 1 / 2) * 2 ^ place < 10 ^ power) : Apart power := by
  intro m e h hsize
  have hstep : (0 : ℚ) < 2 ^ e := by positivity
  unfold Binary64.size at hsize ⊢
  rcases lt_trichotomy e place with hlt | rfl | hgt
  · -- With shorter steps even the greatest significand stays below.
    have hm : (m : ℚ) + 1 ≤ 2 ^ 53 := by exact_mod_cast h.lt
    have hpow : (2 : ℚ) ^ (e + 53) ≤ 10 ^ power :=
      (zpow_le_zpow_right₀ (by norm_num) (by omega)).trans hlower
    rw [zpow_add₀ (by norm_num)] at hpow
    have hproduct := mul_le_mul_of_nonneg_right hm hstep.le
    norm_num at hpow hproduct
    linarith
  · have hm : m < next := by
      have hlt := hsize.trans_le hnext
      rw [mul_lt_mul_iff_left₀ hstep] at hlt
      exact_mod_cast hlt
    have hm' : (m : ℚ) + 1 ≤ next := by exact_mod_cast hm
    have hproduct := mul_le_mul_of_nonneg_right hm' hstep.le
    linarith
  · -- With longer steps even the least significand is not below.
    exfalso
    have hm : (2 : ℚ) ^ 52 ≤ m := by exact_mod_cast h.full (by omega)
    have hpow : (2 : ℚ) ^ (place + 53) ≤ 2 ^ (e + 52) :=
      zpow_le_zpow_right₀ (by norm_num) (by omega)
    rw [zpow_add₀ (by norm_num) e] at hpow
    have hproduct := mul_le_mul_of_nonneg_right hm hstep.le
    norm_num at hpow hproduct
    linarith

theorem apart_tenThousandth : Apart (-4) :=
  apart_of_next (-66) 7378697629483821 (by norm_num) (by norm_num) (by norm_num) (by norm_num)
    (by norm_num)

theorem apart_sixteen : Apart 16 :=
  apart_of_next 1 (5 * 10 ^ 15) (by norm_num) (by norm_num) (by norm_num) (by norm_num)
    (by norm_num)

theorem apart_twentyOne : Apart 21 :=
  apart_of_next 17 7629394531250000 (by norm_num) (by norm_num) (by norm_num) (by norm_num)
    (by norm_num)

/-- Where doubles keep apart from a power of ten, the shortest decimal begins
    below it exactly if its double lies below. -/
theorem Shortest.le_leading_iff {d : Decimal} {power : Int} (hproper : Binary64.Proper m e)
    (h : Shortest m e d) (hapart : Apart power) :
    power ≤ d.leading ↔ 10 ^ power ≤ Binary64.size m e := by
  constructor
  · intro hle
    by_contra hlt
    have hvalue := (value_bounds h.pos).1.trans_lt
      (h.upper.trans_lt (hapart m e hproper (not_le.1 hlt)))
    exact absurd (lt_of_zpow_lt hvalue) (not_lt.2 hle)
  · intro hle
    have htop := hle.trans_lt (leadingOf_spec (e := e) hproper.pos).2
    have := lt_of_zpow_lt htop
    have := h.leading
    omega

end Decimal

end MiniLisp
