import KeyChords.Decimal.FloatText
import KeyChords.Decimal.Numeral
import KeyChords.Proofs.Decimal.ReadBack

/-! # Number texts that read back

An integer is written by its digits, a binary64 number by the digits of its shortest decimal in one
of two forms. A reader of numerals finds the same whole part, fraction and exponent again, so it
finds the same number.
-/

namespace KeyChords.Decimal

/-! ## Digits -/

private theorem digitsValue_eq_ofDigitChars (value : Nat) (digits : List Char) :
    digitsValue value digits = Nat.ofDigitChars 10 digits value := by
  rw [Nat.ofDigitChars_eq_foldl]
  rfl

private theorem digitsValue_append (value : Nat) (first second : List Char) :
    digitsValue value (first ++ second) = digitsValue (digitsValue value first) second :=
  List.foldl_append

/-- A number is read back from its digits. -/
theorem digitsValue_natDigits (value : Nat) : digitsValue 0 (natDigits value) = value := by
  rw [digitsValue_eq_ofDigitChars]
  exact Nat.ofDigitChars_ten_toDigits

private theorem digitsValue_zeros (value count : Nat) :
    digitsValue value (List.replicate count '0') = value * 10 ^ count := by
  rw [digitsValue_eq_ofDigitChars, Nat.ofDigitChars_replicate_zero, Nat.mul_comm]

private theorem digitsValue_zeros_append (count : Nat) (digits : List Char) :
    digitsValue 0 (List.replicate count '0' ++ digits) = digitsValue 0 digits := by
  rw [digitsValue_append, digitsValue_zeros, Nat.zero_mul]

/-- A text of digits. -/
def AllDigits (text : List Char) : Prop :=
  ∀ c ∈ text, c.isDigit = true

theorem allDigits_natDigits (value : Nat) : AllDigits (natDigits value) :=
  fun _ member => Nat.isDigit_of_mem_toDigits (by norm_num) (by norm_num) member

theorem allDigits_zeros (count : Nat) : AllDigits (List.replicate count '0') := by
  intro c member
  rw [List.eq_of_mem_replicate member]
  rfl

theorem AllDigits.append {first second : List Char} (digits : AllDigits first)
    (others : AllDigits second) : AllDigits (first ++ second) := by
  intro c member
  rcases List.mem_append.mp member with inside | inside
  · exact digits c inside
  · exact others c inside

theorem AllDigits.take {text : List Char} (digits : AllDigits text) (count : Nat) :
    AllDigits (text.take count) :=
  fun c member => digits c (List.mem_of_mem_take member)

theorem AllDigits.drop {text : List Char} (digits : AllDigits text) (count : Nat) :
    AllDigits (text.drop count) :=
  fun c member => digits c (List.mem_of_mem_drop member)

/-- Every number has a digit. -/
theorem natDigits_ne_nil (value : Nat) : natDigits value ≠ [] :=
  Nat.toDigits_ne_nil

/-- No positive number begins with a zero. -/
theorem head?_natDigits {value : Nat} (positive : 0 < value) :
    (natDigits value).head? ≠ some '0' := by
  induction value using Nat.strongRecOn with
  | ind value hyp =>
    rw [natDigits, Nat.toDigits_eq_if (by norm_num)]
    split
    · simpa using positive.ne'
    · next large =>
      have shorter := hyp (value / 10) (by omega) (by omega)
      rwa [List.head?_append_of_ne_nil _ Nat.toDigits_ne_nil]

/-- A number below a power of ten has no more digits than the exponent says. -/
theorem length_natDigits_le {value : Nat} (limit : Nat) (positive : 0 < limit)
    (small : value < Nat.pow 10 limit) : (natDigits value).length ≤ limit :=
  (Nat.length_toDigits_le_iff (by norm_num) positive).mpr small

/-! ## Reading a numeral -/

private theorem readNat?_of_digits {digits : List Char} (nonempty : digits ≠ [])
    (all : AllDigits digits) : readNat? digits = some (digitsValue 0 digits) := by
  rw [readNat?, if_pos ⟨nonempty, List.all_eq_true.mpr all⟩]

private theorem readNat?_paddedDigits (width value : Nat) :
    readNat? (paddedDigits width value) = some value := by
  have nonempty : paddedDigits width value ≠ [] := by
    simp [paddedDigits, natDigits_ne_nil]
  rw [readNat?_of_digits nonempty ((allDigits_zeros _).append (allDigits_natDigits value)),
    paddedDigits, digitsValue_zeros_append, digitsValue_natDigits]

/-- What may follow the digits of a numeral: nothing, or an exponent. -/
def EndsDigits (tail : List Char) : Prop :=
  ∀ c ∈ tail.head?, c = 'e'

private theorem endsDigits_nil : EndsDigits [] := by
  simp [EndsDigits]

private theorem endsDigits_exponent (tail : List Char) : EndsDigits ('e' :: tail) := by
  simp [EndsDigits]

private theorem takeWhile_digits {digits tail : List Char} (all : AllDigits digits)
    (stops : ∀ c ∈ tail.head?, c.isDigit = false) :
    (digits ++ tail).takeWhile Char.isDigit = digits ∧
      (digits ++ tail).dropWhile Char.isDigit = tail := by
  rw [List.takeWhile_append_of_pos all, List.dropWhile_append_of_pos all]
  cases tail with
  | nil => simp
  | cons c rest => simp [stops c rfl]

/-- What ends a run of digits does not begin with one. -/
theorem EndsDigits.stops {tail : List Char} (ends : EndsDigits tail) :
    ∀ c ∈ tail.head?, c.isDigit = false := by
  intro c member
  rw [ends c member]
  rfl

/-- A numeral without a fraction is read in its parts. -/
theorem Numeral.read?_whole {whole tail : List Char} (digits : AllDigits whole)
    (nonempty : whole ≠ []) (ends : EndsDigits tail) :
    Numeral.read? (whole ++ tail) =
      (readExponent? tail).map fun exponent =>
        { whole
          coefficient := digitsValue 0 whole
          exponent := exponent.getD 0
          integral := exponent.isNone } := by
  obtain ⟨taken, left⟩ := takeWhile_digits digits ends.stops
  have no_fraction : splitFraction tail = (none, tail) := by
    rcases tail with _ | ⟨c, rest⟩
    · rfl
    · rw [ends c rfl]
      rfl
  simp [Numeral.read?, taken, left, no_fraction, nonempty, digitsValue]

/-- A numeral with a fraction is read in its parts. -/
theorem Numeral.read?_fraction {whole fraction tail : List Char} (digits : AllDigits whole)
    (others : AllDigits fraction) (nonempty : whole ≠ []) (ends : EndsDigits tail) :
    Numeral.read? (whole ++ '.' :: (fraction ++ tail)) =
      (readExponent? tail).map fun exponent =>
        { whole
          coefficient := digitsValue 0 (whole ++ fraction)
          exponent := exponent.getD 0 - fraction.length
          integral := false } := by
  have point_stops : ∀ c ∈ ('.' :: (fraction ++ tail)).head?, c.isDigit = false := by
    intro c member
    obtain rfl := Option.some.inj member
    rfl
  obtain ⟨taken, left⟩ := takeWhile_digits digits point_stops
  obtain ⟨fraction_taken, fraction_left⟩ := takeWhile_digits others ends.stops
  simp [Numeral.read?, taken, left, splitFraction, fraction_taken, fraction_left, nonempty,
    digitsValue_append]

private theorem readExponent?_signed (width : Nat) (exponent : Int) :
    readExponent? ('e' :: (if exponent < 0 then '-' else '+') ::
      paddedDigits width exponent.natAbs) = some (some exponent) := by
  by_cases negative : exponent < 0
  · simp [readExponent?, negative, readNat?_paddedDigits, abs_of_neg]
  · simp [readExponent?, negative, readNat?_paddedDigits, abs_of_nonneg, not_lt.mp]

private theorem Numeral.read?_point {whole fraction : List Char} (digits : AllDigits whole)
    (others : AllDigits fraction) (nonempty : whole ≠ []) :
    Numeral.read? (whole ++ '.' :: fraction) =
      some ⟨whole, digitsValue 0 (whole ++ fraction), -(fraction.length : Int), false⟩ := by
  have read := Numeral.read?_fraction digits others nonempty endsDigits_nil
  rw [List.append_nil] at read
  rw [read]
  simp [readExponent?]

/-! ## Integers -/

/-- The digits of a number are read as that number. -/
theorem Numeral.read?_natDigits (value : Nat) :
    Numeral.read? (natDigits value) = some ⟨natDigits value, value, 0, true⟩ := by
  have read := Numeral.read?_whole (allDigits_natDigits value) (natDigits_ne_nil value)
    endsDigits_nil
  rw [List.append_nil] at read
  rw [read]
  simp [readExponent?, digitsValue_natDigits]

/-! ## Binary64 numbers -/

/-- **What a numeral has to be like** to be read as a number with a given value: it is no integer,
has no needless zero in front, and its decimal has the value. -/
structure Numeral.Spells (numeral : Numeral) (magnitude : Nat) : Prop where
  not_integral : numeral.integral = false
  trim : 1 < numeral.whole.length → numeral.whole.head? ≠ some '0'
  value : Scaled.exactMagnitude ⟨numeral.coefficient, numeral.exponent⟩ = magnitude

/-- A numeral that spells a finite magnitude is rounded to it. -/
theorem Numeral.Spells.toBinary64 {numeral : Numeral} {magnitude : Nat}
    (spells : numeral.Spells magnitude) (negative : Bool) (finite : magnitude < finiteMagnitudes) :
    numeral.toBinary64 negative = .finite negative ⟨magnitude, finite⟩ := by
  rw [Numeral.toBinary64, Binary64.ofDecimal_eq, spells.value, Binary64.ofMagnitude,
    dif_pos finite]

variable {decimal : Scaled}

/-- A decimal in positional form is read as a numeral of the same value. -/
theorem read?_positional (positive : 0 < decimal.coefficient) :
    ∃ numeral, Numeral.read? (positional (natDigits decimal.coefficient)
        ((natDigits decimal.coefficient).length + decimal.exponent)) = some numeral ∧
      numeral.Spells decimal.exactMagnitude := by
  have digits := allDigits_natDigits decimal.coefficient
  have value := digitsValue_natDigits decimal.coefficient
  have nonempty := natDigits_ne_nil decimal.coefficient
  have leading := head?_natDigits positive
  generalize natDigits decimal.coefficient = text at *
  obtain ⟨point, point_eq⟩ : ∃ point : Int, text.length + decimal.exponent = point := ⟨_, rfl⟩
  rw [point_eq]
  unfold positional
  split
  · next small =>
    refine ⟨_, Numeral.read?_point (allDigits_zeros 1)
      ((allDigits_zeros (-point).toNat).append digits) (by simp), rfl, by simp, ?_⟩
    change Scaled.exactMagnitude
      ⟨digitsValue 0 (List.replicate 1 '0' ++ (List.replicate (-point).toNat '0' ++ text)),
        -((List.replicate (-point).toNat '0' ++ text).length : Int)⟩ = _
    rw [digitsValue_zeros_append, digitsValue_zeros_append, value]
    congr 2
    simp only [List.length_append, List.length_replicate]
    omega
  · split
    · next short =>
      -- the zeros in front of the point and the one behind it belong to the coefficient
      obtain ⟨zeros, zeros_eq⟩ : ∃ zeros, point.toNat - text.length = zeros := ⟨_, rfl⟩
      rw [zeros_eq]
      refine ⟨_, Numeral.read?_point (digits.append (allDigits_zeros zeros)) (allDigits_zeros 1)
        (by simp [nonempty]), rfl, fun _ => ?_, ?_⟩
      · rw [List.head?_append_of_ne_nil _ nonempty]
        exact leading
      · refine (Scaled.exactMagnitude_congr (zeros + 1) ?_ ?_).symm
        · change -((['0'].length : Nat) : Int) + (zeros + 1 : Nat) = decimal.exponent
          rw [List.length_singleton]
          omega
        · change digitsValue 0 (text ++ List.replicate zeros '0' ++ List.replicate 1 '0') = _
          rw [digitsValue_append, digitsValue_append, digitsValue_zeros, digitsValue_zeros, value,
            mul_assoc, ← pow_add]
    · next inside =>
      refine ⟨_, Numeral.read?_point (digits.take point.toNat) (digits.drop point.toNat) ?_,
        rfl, fun _ => ?_, ?_⟩
      · simp [nonempty]
        omega
      · rw [List.head?_take, if_neg (by omega)]
        exact leading
      · change Scaled.exactMagnitude ⟨digitsValue 0 (text.take point.toNat ++
          text.drop point.toNat), -((text.drop point.toNat).length : Int)⟩ = _
        rw [List.take_append_drop, value]
        congr 2
        simp only [List.length_drop]
        omega

/-- A decimal in scientific form is read as a numeral of the same value. -/
theorem read?_scientific (width : Nat) (decimal : Scaled) :
    ∃ numeral, Numeral.read? (scientific width (natDigits decimal.coefficient)
        ((natDigits decimal.coefficient).length + decimal.exponent - 1)) = some numeral ∧
      numeral.Spells decimal.exactMagnitude := by
  have digits := allDigits_natDigits decimal.coefficient
  have value := digitsValue_natDigits decimal.coefficient
  have nonempty := natDigits_ne_nil decimal.coefficient
  generalize natDigits decimal.coefficient = text at *
  obtain ⟨leading, leading_eq⟩ : ∃ leading : Int, text.length + decimal.exponent - 1 = leading :=
    ⟨_, rfl⟩
  rw [leading_eq]
  rcases text with _ | ⟨first, _ | ⟨second, rest⟩⟩
  · exact absurd rfl nonempty
  · have read := Numeral.read?_whole digits nonempty (endsDigits_exponent
      ((if leading < 0 then '-' else '+') :: paddedDigits width leading.natAbs))
    rw [readExponent?_signed] at read
    refine ⟨_, read, rfl, by simp, ?_⟩
    change Scaled.exactMagnitude ⟨digitsValue 0 [first], leading⟩ = _
    rw [value]
    congr 2
    rw [List.length_singleton] at leading_eq
    omega
  · have read := Numeral.read?_fraction (digits.take 1) (digits.drop 1) (by simp)
      (endsDigits_exponent
        ((if leading < 0 then '-' else '+') :: paddedDigits width leading.natAbs))
    rw [readExponent?_signed] at read
    refine ⟨_, read, rfl, by simp, ?_⟩
    change Scaled.exactMagnitude
      ⟨digitsValue 0 (first :: second :: rest), leading - ((second :: rest).length : Int)⟩ = _
    rw [value]
    congr 2
    simp only [List.length_cons] at leading_eq ⊢
    omega

/-- **The text of a magnitude is read as a numeral of that magnitude.** -/
theorem read?_magnitudeText (style : FloatStyle) {magnitude : Nat}
    (finite : magnitude < finiteMagnitudes) :
    ∃ numeral, Numeral.read? (magnitudeText style magnitude) = some numeral ∧
      numeral.Spells magnitude := by
  unfold magnitudeText
  split
  · next zero =>
    refine ⟨_, Numeral.read?_point (allDigits_zeros 1) (allDigits_zeros 1) (by simp), rfl,
      by simp, ?_⟩
    rw [zero]
    exact Scaled.exactMagnitude_of_zero (-1)
  · next nonzero =>
    have positive := Nat.pos_of_ne_zero
      (coefficient_shortest_ne_zero (Nat.pos_of_ne_zero nonzero) finite)
    have reads := exactMagnitude_shortest finite
    dsimp only
    split
    · obtain ⟨numeral, read, spells⟩ := read?_positional positive
      exact ⟨numeral, read, reads ▸ spells⟩
    · obtain ⟨numeral, read, spells⟩ :=
        read?_scientific style.exponentWidth (shortest magnitude)
      exact ⟨numeral, read, reads ▸ spells⟩

end KeyChords.Decimal
