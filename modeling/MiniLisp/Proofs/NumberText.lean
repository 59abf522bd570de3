import MiniLisp.Host.Value
import MiniLisp.Proofs.NumberText.Restyling

/-! # The text of a number

    A number is written with the digits of its shortest decimal, in the
    language's notation or in the host's. Where one notation gives way to the
    other is told from these digits, and the same places are found from the size
    of the double, since the shortest decimal tells it.

    So the host's text has its form for every double, and the language's text is
    what is made from it: it spells the same number.

    * **`Number.positional_form`**, **`Number.scientific_form`** — the host's
      text in both notations, and the language's beside it;
    * **`Number.text_keeps_number`** — the language's text of every double. -/

namespace MiniLisp

/-! ## The digits of a number -/

theorem areDigits_toDigits (n : Nat) : Number.AreDigits (Nat.toDigits 10 n) :=
  fun _ hc => Nat.isDigit_of_mem_toDigits (by decide) (by decide) hc

theorem getLast?_toDigits {n : Nat} (h : n % 10 ≠ 0) : (Nat.toDigits 10 n).getLast? ≠ some '0' := by
  have hlast : (Nat.toDigits 10 n).getLast? = some (n % 10).digitChar := by
    rw [Nat.toDigits_eq_if (by decide)]
    split
    · next hlt => rw [Nat.mod_eq_of_lt hlt, List.getLast?_singleton]
    · rw [List.getLast?_concat]
  rw [hlast]
  intro hzero
  exact h (Nat.digitChar_eq_zero.1 (Option.some.inj hzero))

theorem head?_toDigits {n : Nat} (h : 0 < n) : (Nat.toDigits 10 n).head? ≠ some '0' := by
  induction n using Nat.strongRecOn with
  | ind n ih =>
    rw [Nat.toDigits_eq_if (by decide)]
    split
    · intro hzero
      have := Nat.digitChar_eq_zero.1 (Option.some.inj hzero)
      omega
    · rw [List.head?_append_of_ne_nil _ Nat.toDigits_ne_nil]
      exact ih (n / 10) (by omega) (by omega)

theorem dropWhile_toDigits {n : Nat} (h : 0 < n) (count : Nat) :
    (DecimalStyle.zeros count ++ Nat.toDigits 10 n).dropWhile (· == '0') = Nat.toDigits 10 n := by
  have hzeros : ∀ c ∈ DecimalStyle.zeros count, (c == '0') = true := by
    intro c hc
    rw [List.eq_of_mem_replicate hc]
    rfl
  have hhead := head?_toDigits h
  rw [List.dropWhile_append_of_pos hzeros]
  cases hdigits : Nat.toDigits 10 n with
  | nil => rfl
  | cons c rest =>
    rw [hdigits] at hhead
    have hc : c ≠ '0' := fun hc => hhead (by rw [hc]; rfl)
    simp [hc]

namespace Number

variable {m : Nat} {e : Int} {d : Decimal}

/-! ## Both notations of a shortest decimal -/

theorem isWhole_size_iff (h : Decimal.Shortest m e d) (hpos : 0 < Binary64.size m e) :
    IsWhole (Binary64.size m e) ↔ 0 ≤ d.exponent := by
  rw [isWhole_iff hpos.le, h.whole_iff]

/-- No double from `10 ^ 16` on has places. -/
theorem isWhole_of_large (hproper : Binary64.Proper m e) (hsize : 10 ^ 16 ≤ Binary64.size m e) :
    IsWhole (Binary64.size m e) := by
  rw [isWhole_iff (Binary64.size_pos hproper).le]
  exact Binary64.whole_of_large hproper (le_trans (by norm_num) hsize)

theorem length_eq (d : Decimal) :
    ((Nat.toDigits 10 d.digits).length : Int) = d.leading - d.exponent + 1 := by
  unfold Decimal.leading decimalLength
  omega

theorem areDigits_zeros (count : Nat) : AreDigits (DecimalStyle.zeros count) := by
  intro c hc
  rw [List.eq_of_mem_replicate hc]
  decide

theorem areDigits_append {text more : List Char} (h : AreDigits text) (h' : AreDigits more) :
    AreDigits (text ++ more) :=
  List.forall_mem_append.2 ⟨h, h'⟩

/-! ### Without an exponent -/

/-- Places that do not end in a zero are no single zero. -/
theorem positional_of_last {size : ℚ} {whole places : List Char} (hleast : 10 ^ (-4 : Int) ≤ size)
    (hbelow : size < 10 ^ 16) (hnot : ¬IsWhole size) (hwhole : AreDigits whole)
    (hwhole_ne : whole ≠ []) (hplaces : AreDigits places) (hplaces_ne : places ≠ [])
    (hlast : places.getLast? ≠ some '0')
    (hsignificant : ((whole ++ places).dropWhile (· == '0')).length ≤ 17) :
    Positional size whole places where
  least := hleast
  below := hbelow
  whole_digits := hwhole
  whole_ne_nil := hwhole_ne
  places_digits := hplaces
  places_ne_nil := hplaces_ne
  significant := hsignificant
  zero_iff := iff_of_false (by rintro rfl; exact hlast rfl) hnot
  last := fun _ => hlast

section positional

variable (hleast : 10 ^ (-4 : Int) ≤ Binary64.size m e) (hbelow : Binary64.size m e < 10 ^ 16)

include hleast hbelow

/-- Below one all digits stand after the point, with zeros in front. -/
theorem positional_below_one (h : Decimal.Shortest m e d) (hnot : ¬IsWhole (Binary64.size m e)) :
    Positional (Binary64.size m e) ['0']
      (DecimalStyle.zeros (-d.leading - 1).toNat ++ Nat.toDigits 10 d.digits) := by
  have hzero : AreDigits ['0'] := areDigits_zeros 1
  have hzeros : ['0'] ++ DecimalStyle.zeros (-d.leading - 1).toNat =
      DecimalStyle.zeros ((-d.leading - 1).toNat + 1) := rfl
  apply positional_of_last hleast hbelow hnot hzero (by simp)
    (areDigits_append (areDigits_zeros _) (areDigits_toDigits _)) (by simp [Nat.toDigits_ne_nil])
  · rw [List.getLast?_append_of_ne_nil _ Nat.toDigits_ne_nil]
    exact getLast?_toDigits h.last
  · rw [← List.append_assoc, hzeros, dropWhile_toDigits h.pos]
    exact h.length_le

/-- The digits of a whole number are filled up with zeros. -/
theorem positional_whole (hleading : d.leading < 16)
    (hle : (Nat.toDigits 10 d.digits).length ≤ d.leading.toNat + 1)
    (hwhole : IsWhole (Binary64.size m e)) :
    Positional (Binary64.size m e) (Nat.toDigits 10 d.digits ++
      DecimalStyle.zeros (d.leading.toNat + 1 - (Nat.toDigits 10 d.digits).length)) ['0'] where
  least := hleast
  below := hbelow
  whole_digits := areDigits_append (areDigits_toDigits _) (areDigits_zeros _)
  whole_ne_nil := by simp [Nat.toDigits_ne_nil]
  places_digits := areDigits_zeros 1
  places_ne_nil := by simp
  significant := by
    apply (List.dropWhile_sublist _).length_le.trans
    simp only [DecimalStyle.zeros, List.length_append, List.length_replicate, List.length_singleton]
    omega
  zero_iff := iff_of_true rfl hwhole
  last := fun hno => absurd rfl hno

/-- Where there are more digits the point stands among them. -/
theorem positional_places (h : Decimal.Shortest m e d)
    (hlt : d.leading.toNat + 1 < (Nat.toDigits 10 d.digits).length)
    (hnot : ¬IsWhole (Binary64.size m e)) :
    Positional (Binary64.size m e) ((Nat.toDigits 10 d.digits).take (d.leading.toNat + 1))
      ((Nat.toDigits 10 d.digits).drop (d.leading.toNat + 1)) := by
  have hdigits := areDigits_toDigits d.digits
  have hwhole : AreDigits ((Nat.toDigits 10 d.digits).take (d.leading.toNat + 1)) :=
    fun c hc => hdigits c (List.mem_of_mem_take hc)
  have hplaces : AreDigits ((Nat.toDigits 10 d.digits).drop (d.leading.toNat + 1)) :=
    fun c hc => hdigits c (List.mem_of_mem_drop hc)
  apply positional_of_last hleast hbelow hnot hwhole (by simp [Nat.toDigits_ne_nil]) hplaces
  · exact List.ne_nil_of_length_pos (by rw [List.length_drop]; omega)
  · rw [List.getLast?_drop, if_neg (not_le.2 hlt)]
    exact getLast?_toDigits h.last
  · rw [List.take_append_drop]
    exact (List.dropWhile_sublist _).length_le.trans h.length_le

/-- Without an exponent the notations differ in the zero after the point of a
    whole number. -/
theorem positional_form (h : Decimal.Shortest m e d) (hpos : 0 < Binary64.size m e)
    (hleading : d.leading < 16) :
    ∃ whole places, Positional (Binary64.size m e) whole places ∧
      Host.Value.realStyle.positional (Nat.toDigits 10 d.digits) d.leading =
        whole ++ '.' :: places ∧
      Number.style.positional (Nat.toDigits 10 d.digits) d.leading =
        if IsWhole (Binary64.size m e) then whole else whole ++ '.' :: places := by
  have hlength := length_eq d
  have hdigits : 0 < (Nat.toDigits 10 d.digits).length := Nat.length_toDigits_pos
  have hwhole := isWhole_size_iff h hpos
  -- By their number the digits end before the point exactly if the number is whole.
  rcases lt_or_ge d.leading 0 with hneg | hnonneg
  · have hnot : ¬IsWhole (Binary64.size m e) := by
      rw [hwhole]
      omega
    exact ⟨_, _, positional_below_one hleast hbelow h hnot, by simp [DecimalStyle.positional, hneg],
      by simp [DecimalStyle.positional, hneg, hnot]⟩
  · by_cases hle : (Nat.toDigits 10 d.digits).length ≤ d.leading.toNat + 1
    · have hyes : IsWhole (Binary64.size m e) := by
        rw [hwhole]
        omega
      exact ⟨_, _, positional_whole hleast hbelow hleading hle hyes,
        by simp [DecimalStyle.positional, not_lt.2 hnonneg, hle, Host.Value.realStyle],
        by simp [DecimalStyle.positional, not_lt.2 hnonneg, hle, hyes, Number.style]⟩
    · have hnot : ¬IsWhole (Binary64.size m e) := by
        rw [hwhole]
        omega
      exact ⟨_, _, positional_places hleast hbelow h (not_le.1 hle) hnot,
        by simp [DecimalStyle.positional, not_lt.2 hnonneg, hle],
        by simp [DecimalStyle.positional, not_lt.2 hnonneg, hle, hnot]⟩

end positional

/-! ### With an exponent -/

/-- In every style the exponent is written alike but for the zeros in front of it. -/
theorem scientific_eq (style : DecimalStyle) (first : Char) (places : List Char) (leading : Int) :
    style.scientific (first :: places) leading = first :: afterPoint places ++
      'e' :: exponentSign leading ::
        (DecimalStyle.zeros (style.exponentWidth - (Nat.toDigits 10 leading.natAbs).length) ++
          Nat.toDigits 10 leading.natAbs) := by
  cases places <;> rfl

/-- The exponent of the host's text, which has two digits or more. -/
def hostExponent (leading : Int) : List Char :=
  DecimalStyle.zeros (2 - (Nat.toDigits 10 leading.natAbs).length) ++
    Nat.toDigits 10 leading.natAbs

theorem hostExponent_value (leading : Int) :
    Nat.ofDigitChars 10 (hostExponent leading) 0 = leading.natAbs := by
  rw [hostExponent, DecimalStyle.zeros, Nat.ofDigitChars_append, Nat.ofDigitChars_replicate_zero,
    Nat.mul_zero, Nat.ofDigitChars_ten_toDigits]

theorem hostExponent_length (leading : Int) : 2 ≤ (hostExponent leading).length := by
  simp only [hostExponent, DecimalStyle.zeros, List.length_append, List.length_replicate]
  omega

theorem scientific_of_shortest (hproper : Binary64.Proper m e) (h : Decimal.Shortest m e d)
    {first : Char} {places : List Char} (hdigits : Nat.toDigits 10 d.digits = first :: places)
    (hrange : Binary64.size m e < 10 ^ (-4 : Int) ∨ 10 ^ 16 ≤ Binary64.size m e) :
    Scientific (Binary64.size m e) first places d.leading (hostExponent d.leading) := by
  have hall : AreDigits (first :: places) := hdigits ▸ areDigits_toDigits d.digits
  have hcount : (first :: places).length ≤ 17 := hdigits ▸ h.length_le
  have hhead : (first :: places).head? ≠ some '0' := hdigits ▸ head?_toDigits h.pos
  have hlast : (first :: places).getLast? ≠ some '0' := hdigits ▸ getLast?_toDigits h.last
  refine ⟨hrange, hall first List.mem_cons_self, fun hzero => hhead (by rw [hzero]; rfl),
    fun c hc => hall c (List.mem_cons_of_mem _ hc), Nat.le_of_succ_le_succ hcount, ?_,
    areDigits_append (areDigits_zeros _) (areDigits_toDigits _), hostExponent_length _,
    hostExponent_value _, ?_⟩
  · cases places with
    | nil => simp
    | cons c others => rwa [List.getLast?_cons_cons] at hlast
  · have hsize := Decimal.leadingOf_spec (e := e) hproper.pos
    rcases h.leading with heq | ⟨heq, hone⟩
    · exact .inl (heq ▸ hsize)
    · rw [hone] at hdigits
      obtain ⟨rfl, rfl⟩ := List.cons.inj hdigits
      refine .inr ⟨rfl, rfl, ?_⟩
      rw [heq, add_sub_cancel_right]
      exact hsize

/-- With an exponent the notations differ in its zeros. A whole number that the
    language writes without one has zeros in its place. -/
theorem scientific_form (hproper : Binary64.Proper m e) (h : Decimal.Shortest m e d)
    (hrange : Binary64.size m e < 10 ^ (-4 : Int) ∨ 10 ^ 16 ≤ Binary64.size m e) :
    ∃ first places digits, Scientific (Binary64.size m e) first places d.leading digits ∧
      Host.Value.realStyle.scientific (Nat.toDigits 10 d.digits) d.leading =
        first :: afterPoint places ++ 'e' :: exponentSign d.leading :: digits ∧
      Number.style.scientific (Nat.toDigits 10 d.digits) d.leading =
        first :: afterPoint places ++
          'e' :: exponentSign d.leading :: digits.dropWhile (· == '0') ∧
      (IsWhole (Binary64.size m e) → Number.style.positional (Nat.toDigits 10 d.digits) d.leading =
        first :: places ++ DecimalStyle.zeros (d.leading - places.length).toNat) := by
  obtain ⟨first, places, hdigits⟩ := List.exists_cons_of_ne_nil
    (Nat.toDigits_ne_nil (n := d.digits) (b := 10))
  have hform := scientific_of_shortest hproper h hdigits hrange
  have hlength := length_eq d
  have hpos := Binary64.size_pos hproper
  rw [hdigits] at hlength ⊢
  refine ⟨first, places, hostExponent d.leading, hform, scientific_eq .., ?_, ?_⟩
  · have hexponent : 0 < d.leading.natAbs := Int.natAbs_pos.2 hform.exponent_ne_zero
    have hone : 1 - (Nat.toDigits 10 d.leading.natAbs).length = 0 :=
      Nat.sub_eq_zero_of_le Nat.length_toDigits_pos
    rw [hostExponent, dropWhile_toDigits hexponent, scientific_eq, Number.style, hone]
    rfl
  · intro hwhole
    have hlarge := hform.exponent_of_large (hform.large_of_whole hpos hwhole)
    have hplaces : (first :: places).length ≤ d.leading.toNat + 1 := by
      have := (isWhole_size_iff h hpos).1 hwhole
      omega
    have hcount : d.leading.toNat + 1 - (first :: places).length =
        (d.leading - places.length).toNat := by
      rw [List.length_cons]
      omega
    rw [DecimalStyle.positional, if_neg (by omega), if_pos hplaces, hcount]
    simp [Number.style]

/-! ### The notation that is taken -/

/-- The host's text has its form, and the language's text is made from it. -/
theorem render_form (hproper : Binary64.Proper m e) (h : Decimal.Shortest m e d)
    (negative : Bool) :
    HostForm (Binary64.size m e) (Host.Value.realStyle.render d) ∧
      signed negative (Number.style.render d) = restyled (Binary64.size m e)
        (signed negative (Host.Value.realStyle.render d)) := by
  have hpos := Binary64.size_pos hproper
  have hsmall := h.le_leading_iff hproper Decimal.apart_tenThousandth
  have hlarge := h.le_leading_iff hproper Decimal.apart_sixteen
  have hhuge := h.le_leading_iff hproper Decimal.apart_twentyOne
  rw [zpow_ofNat] at hlarge hhuge
  have hhost : Host.Value.realStyle.scientificFrom = 16 := rfl
  have hown : Number.style.scientificFrom = 21 := rfl
  simp only [DecimalStyle.render, hhost, hown]
  -- From `10 ^ 16` up to `10 ^ 21` only the host writes an exponent, and all
  -- numbers there are whole.
  by_cases hplain : -4 ≤ d.leading ∧ d.leading < 16
  · have hbelow := not_le.1 (mt hlarge.2 (not_le.2 hplain.2))
    obtain ⟨whole, places, hform, htext, hmade⟩ :=
      positional_form (hsmall.1 hplain.1) hbelow h hpos hplain.2
    rw [if_pos hplain, if_pos ⟨hplain.1, by omega⟩, htext, hmade]
    refine ⟨.positional hform, ?_⟩
    split
    · next hwhole => exact (hform.restyled_whole hwhole).symm
    · next hwhole => exact (hform.restyled_not_whole hwhole).symm
  · have hrange : Binary64.size m e < 10 ^ (-4 : Int) ∨ 10 ^ 16 ≤ Binary64.size m e := by
      rw [← not_le, ← hsmall, ← hlarge]
      omega
    obtain ⟨first, places, digits, hform, htext, hmade, hpadded⟩ := scientific_form hproper h hrange
    rw [if_neg hplain, htext]
    refine ⟨.scientific hform, ?_⟩
    by_cases hwhole : IsWhole (Binary64.size m e) ∧ Binary64.size m e < 10 ^ 21
    · have hleast := hlarge.2 (hform.large_of_whole hpos hwhole.1)
      have hbelow := mt hhuge.1 (not_le.2 hwhole.2)
      rw [if_pos ⟨by omega, not_le.1 hbelow⟩, hpadded hwhole.1,
        hform.restyled_padded hwhole.1 hwhole.2]
    · have hnot : ¬(-4 ≤ d.leading ∧ d.leading < 21) := by
        rintro ⟨hleast, hbelow⟩
        have hsize := hrange.resolve_left (not_lt.2 (hsmall.1 hleast))
        exact hwhole ⟨isWhole_of_large hproper hsize, not_le.1 (mt hhuge.2 (not_le.2 hbelow))⟩
      rw [if_neg hnot, hmade, hform.restyled_shortened hwhole]

/-! ## The texts of a double -/

theorem renderParts_toList (style : DecimalStyle) (negative : Bool) (m : Nat) (e : Int) :
    (style.renderParts negative m e).toList =
      signed negative (style.render (Decimal.shortest m e)) :=
  String.toList_ofList

/-- The text of a finite number other than zero is made from the host's text. It
    spells the same number as the host's text does, and so does the text that is
    made from any other text of the host's form. -/
theorem text_keeps_number {x : Float} {negative : Bool}
    (hparts : Binary64.parts x = .finite negative m e) (hm : m ≠ 0) :
    (∀ body, HostForm (Binary64.size m e) body →
      KeepsNumber (Binary64.size m e) (signed negative body)
        (restyled (Binary64.size m e) (signed negative body))) ∧
    (∃ body, HostForm (Binary64.size m e) body ∧
      (Host.Value.realText x).toList = signed negative body) ∧
    (Number.text x).toList = restyled (Binary64.size m e) (Host.Value.realText x).toList ∧
    KeepsNumber (Binary64.size m e) (Host.Value.realText x).toList (Number.text x).toList := by
  have hproper := Binary64.proper_of_parts hparts hm
  have hkeeps : ∀ body, HostForm (Binary64.size m e) body →
      KeepsNumber (Binary64.size m e) (signed negative body)
        (restyled (Binary64.size m e) (signed negative body)) := fun body hbody =>
    hbody.keepsNumber negative (Binary64.size_pos hproper) (isWhole_of_large hproper)
  obtain ⟨hform, hmade⟩ := render_form hproper (Decimal.shortest_spec hproper) negative
  have hhost : (Host.Value.realText x).toList =
      signed negative (Host.Value.realStyle.render (Decimal.shortest m e)) := by
    simp only [Host.Value.realText, hparts, if_neg hm, renderParts_toList]
  have hown : (Number.text x).toList =
      signed negative (Number.style.render (Decimal.shortest m e)) := by
    simp only [Number.text, hparts, if_neg hm, renderParts_toList]
  rw [hown, hmade, hhost]
  exact ⟨hkeeps, ⟨_, hform, rfl⟩, rfl, hkeeps _ hform⟩

/-- A whole number whose exponent is written out. -/
theorem text_keeps_number_padded :
    Binary64.parts 123456789012e9 = .finite false 7535204407470703 14 ∧
      Host.Value.realText 123456789012e9 = "1.23456789012e+20" ∧
      Number.text 123456789012e9 = "123456789012000000000" ∧
      (∃ body, HostForm (Binary64.size 7535204407470703 14) body ∧
        (Host.Value.realText 123456789012e9).toList = signed false body) ∧
      KeepsNumber (Binary64.size 7535204407470703 14)
        (Host.Value.realText 123456789012e9).toList (Number.text 123456789012e9).toList := by
  have hparts : Binary64.parts 123456789012e9 = .finite false 7535204407470703 14 := by
    decide +kernel
  have hhost : Host.Value.realText 123456789012e9 = "1.23456789012e+20" := by decide +kernel
  have hown : Number.text 123456789012e9 = "123456789012000000000" := by decide +kernel
  obtain ⟨-, hform, -, hkeeps⟩ := text_keeps_number hparts (by decide)
  exact ⟨hparts, hhost, hown, hform, hkeeps⟩

end Number

end MiniLisp
