import Mathlib.Tactic.NormNum
import NodeRedBull.Js.Chars
import NodeRedBull.Js.Trim

/-! Natural numbers are read back from their decimal digits. -/

namespace NodeRedBull.Js.JsNumber

/-! ## Rounding -/

theorem roundHalfEven_intCast (n : Int) : roundHalfEven (n : ℚ) = n := by
  have below : (n : ℚ).floor = n := Rat.floor_intCast n
  unfold roundHalfEven
  simp only [below, sub_self]
  exact if_pos (by norm_num)

theorem exponentOf_natCast {n : Nat} (positive : 0 < n) :
    exponentOf 2 (n : ℚ) = Nat.log 2 n := by
  have one : (1 : ℚ) ≤ n := by exact_mod_cast positive
  have floor : (n : ℚ).floor = n := Rat.floor_intCast n
  unfold exponentOf
  rw [if_pos one, floor, Int.toNat_natCast]

/-- Below `2 ^ 53` every natural number is a double. -/
theorem roundToDouble_natCast {n : Nat} (small : n < 2 ^ 53) :
    roundToDouble (n : ℚ) = .finite n := by
  rcases Nat.eq_zero_or_pos n with zero | positive
  · subst zero
    exact if_pos Nat.cast_zero
  have nonzero : (n : ℚ) ≠ 0 := by exact_mod_cast positive.ne'
  have log : Nat.log 2 n ≤ 52 := by
    have bound := Nat.log_lt_of_lt_pow positive.ne' small
    omega
  have exponent : max ((Nat.log 2 n : Nat) : Int) (-1022) - 52 = -((52 - Nat.log 2 n : Nat) : Int) := by
    omega
  have scaled : (n : ℚ) / 2 ^ (-((52 - Nat.log 2 n : Nat) : Int)) =
      ((n * 2 ^ (52 - Nat.log 2 n) : Nat) : Int) := by
    rw [zpow_neg, zpow_natCast, div_inv_eq_mul]
    push_cast
    rfl
  have unscaled : (((n * 2 ^ (52 - Nat.log 2 n) : Nat) : Int) : ℚ) *
      2 ^ (-((52 - Nat.log 2 n : Nat) : Int)) = n := by
    rw [← scaled]
    exact div_mul_cancel₀ _ (zpow_ne_zero _ two_ne_zero)
  have range : ¬ (2 : ℚ) ^ (1024 : ℤ) ≤ n := by
    have bound : (n : ℚ) < 2 ^ 53 := by exact_mod_cast small
    have more : (2 : ℚ) ^ 53 ≤ 2 ^ (1024 : ℤ) := by
      rw [zpow_ofNat]
      exact pow_le_pow_right₀ one_le_two (by decide)
    exact not_le.mpr (bound.trans_le more)
  unfold roundToDouble
  rw [if_neg nonzero, abs_of_nonneg (Nat.cast_nonneg n), exponentOf_natCast positive]
  simp only [exponent]
  rw [scaled, roundHalfEven_intCast, unscaled, if_neg range,
    if_neg (not_lt.mpr (Nat.cast_nonneg n))]

theorem roundHalfEven_ge (value : ℚ) : value.floor ≤ roundHalfEven value := by
  unfold roundHalfEven
  dsimp only
  split
  · exact le_rfl
  · split
    · omega
    · split
      · exact le_rfl
      · omega

/-- A natural number is rounded to a natural number, or beyond all doubles. -/
theorem roundToDouble_nat {n : Nat} (positive : 0 < n) :
    (∃ m : Nat, 0 < m ∧ roundToDouble (n : ℚ) = .finite m) ∨
      roundToDouble (n : ℚ) = .infinity false := by
  rcases Nat.lt_or_ge n (2 ^ 53) with small | large
  · exact .inl ⟨n, positive, roundToDouble_natCast small⟩
  have nonzero : (n : ℚ) ≠ 0 := by exact_mod_cast positive.ne'
  have negative : ¬ (n : ℚ) < 0 := not_lt.mpr (Nat.cast_nonneg n)
  have log : 53 ≤ Nat.log 2 n := (Nat.le_log_iff_pow_le (by decide) positive.ne').mpr large
  have exponent : max ((Nat.log 2 n : Nat) : Int) (-1022) - 52 = ((Nat.log 2 n - 52 : Nat) : Int) := by
    omega
  let ulp : Nat := 2 ^ (Nat.log 2 n - 52)
  have unit : (2 : ℚ) ^ ((Nat.log 2 n - 52 : Nat) : Int) = ulp := by
    rw [zpow_natCast]
    exact (Nat.cast_pow 2 _).symm
  have ulp_positive : 0 < ulp := Nat.pow_pos (by decide)
  have below : ulp ≤ n := by
    have power := Nat.pow_log_le_self 2 positive.ne'
    exact (Nat.pow_le_pow_right (by decide) (by omega)).trans power
  let scaled : Int := roundHalfEven ((n : ℚ) / ulp)
  have scaled_positive : 0 < scaled := by
    have one : (1 : Int) ≤ ((n : ℚ) / ulp).floor := by
      rw [Rat.le_floor_iff, Int.cast_one, one_le_div (by exact_mod_cast ulp_positive)]
      exact_mod_cast below
    exact (Int.lt_of_lt_of_le Int.zero_lt_one one).trans_le (roundHalfEven_ge _)
  have whole : ((scaled : ℚ) * ulp) = ((scaled.toNat * ulp : Nat) : ℚ) := by
    have cast : ((scaled.toNat : Int) : ℚ) = scaled := by rw [Int.toNat_of_nonneg scaled_positive.le]
    rw [← cast]
    push_cast
    rfl
  unfold roundToDouble
  rw [if_neg nonzero, abs_of_nonneg (Nat.cast_nonneg n), exponentOf_natCast positive]
  simp only [exponent, unit]
  rw [if_neg negative]
  change (∃ m : Nat, 0 < m ∧ (if (2 : ℚ) ^ (1024 : ℤ) ≤ (scaled : ℚ) * ulp then _ else _) = _) ∨
    (if (2 : ℚ) ^ (1024 : ℤ) ≤ (scaled : ℚ) * ulp then _ else _) = _
  rw [whole, decide_eq_false negative]
  split
  · exact .inr rfl
  · refine .inl ⟨_, Nat.mul_pos ?_ ulp_positive, rfl⟩
    omega

/-! ## Digits -/

theorem digitsValue_eq {digits : List Char} (all : ∀ c ∈ digits, c.isDigit = true) :
    digitsValue 10 digits = Nat.ofDigitChars 10 digits 0 := by
  have fold : ∀ (digits : List Char), (∀ c ∈ digits, c.isDigit = true) → ∀ total : Nat,
      digits.foldl (fun total c => total * 10 + digitValue c) total =
        Nat.ofDigitChars 10 digits total := by
    intro digits
    induction digits with
    | nil => exact fun _ _ => rfl
    | cons c rest ih =>
      intro all total
      have digit : digitValue c = c.toNat - '0'.toNat := if_pos (all c List.mem_cons_self)
      rw [List.foldl_cons, Nat.ofDigitChars_cons, digit, Nat.mul_comm]
      exact ih (fun c member => all c (List.mem_cons_of_mem _ member)) _
  exact fold digits all 0

theorem isDigit_toDigits {n : Nat} : ∀ c ∈ Nat.toDigits 10 n, c.isDigit = true :=
  fun _ member => Nat.isDigit_of_mem_toDigits (by decide) (by decide) member

theorem digitsValue_toDigits (n : Nat) : digitsValue 10 (Nat.toDigits 10 n) = n := by
  rw [digitsValue_eq isDigit_toDigits, Nat.ofDigitChars_ten_toDigits]

theorem isSpace_of_digit {c : Char} (digit : c.isDigit = true) : isSpace c = false := by
  rw [isDigit_iff] at digit
  exact isSpace_of_visible (by omega) (by omega)

theorem trim_digits {digits : List Char} (all : ∀ c ∈ digits, c.isDigit = true) :
    trim digits = digits :=
  trim_of_trimmed ⟨fun c first => isSpace_of_digit (all c (List.mem_of_head? first)),
    fun c last => isSpace_of_digit (all c (List.mem_of_getLast? last))⟩

theorem parseUnsignedDecimal_digits {digits : List Char} (nonempty : digits ≠ [])
    (all : ∀ c ∈ digits, c.isDigit = true) :
    parseUnsignedDecimal digits = some (roundToDouble (digitsValue 10 digits)) := by
  have finite : digits ≠ "Infinity".toList := by
    intro same
    have digit := all 'I' (by rw [same]; decide)
    revert digit
    decide
  have whole : digits.takeWhile Char.isDigit = digits := List.takeWhile_eq_self_iff.mpr all
  have rest : digits.dropWhile Char.isDigit = [] := List.dropWhile_eq_nil_iff.mpr all
  unfold parseUnsignedDecimal
  rw [if_neg finite, whole, rest]
  simp only [nonempty, false_and, if_false, List.append_nil, parseExponent, Option.map_some,
    List.length_nil, Nat.cast_zero, sub_zero, zpow_zero, mul_one]

/-- Digits that do not begin with a zero are a decimal number. -/
theorem parse_digits {digits : List Char} (nonempty : digits ≠ [])
    (all : ∀ c ∈ digits, c.isDigit = true) (leading : digits.head? ≠ some '0') :
    parse digits = roundToDouble (digitsValue 10 digits) := by
  unfold parse
  rw [trim_digits all]
  cases digits with
  | nil => exact absurd rfl nonempty
  | cons first rest =>
    have digit := all first List.mem_cons_self
    -- No sign and no radix prefix: the last case of the match
    have other : ∀ {sign : Char} {tail : List Char}, first :: rest = sign :: tail →
        sign ≠ '0' ∧ sign ≠ '-' ∧ sign ≠ '+' := by
      intro sign tail same
      cases same
      refine ⟨fun zero => leading (by rw [zero]; rfl), ?_, ?_⟩
      · intro minus
        rw [minus] at digit
        exact absurd digit (by decide)
      · intro plus
        rw [plus] at digit
        exact absurd digit (by decide)
    split <;> rename_i same
    · cases same
    any_goals exact absurd rfl (other same).1
    · exact absurd rfl (other same).2.1
    · exact absurd rfl (other same).2.2
    · rw [parseUnsignedDecimal_digits nonempty all]
      rfl

/-- Digits are a decimal number, also behind leading zeros. -/
theorem parse_allDigits {digits : List Char} (nonempty : digits ≠ [])
    (all : ∀ c ∈ digits, c.isDigit = true) :
    parse digits = roundToDouble (digitsValue 10 digits) := by
  by_cases leading : digits.head? = some '0'
  · obtain ⟨rest, same⟩ := List.head?_eq_some_iff.mp leading
    subst same
    have later : ∀ c ∈ rest, c.isDigit = true := fun c member => all c (List.mem_cons_of_mem _ member)
    unfold parse
    rw [trim_digits all]
    split <;> rename_i shape
    -- A radix letter is no digit
    any_goals
      first
      | (cases shape; exact absurd (later _ List.mem_cons_self) (by decide))
      | cases shape
    rw [parseUnsignedDecimal_digits nonempty all]
    rfl
  · exact parse_digits nonempty all leading

theorem head_toDigits {n : Nat} (positive : 0 < n) : (Nat.toDigits 10 n).head? ≠ some '0' := by
  induction n using Nat.strongRecOn with
  | _ n ih =>
    by_cases small : n < 10
    · rw [Nat.toDigits_of_lt_base small]
      intro first
      have code := congrArg Char.toNat (Option.some.inj first)
      rw [Nat.toNat_digitChar_of_lt_ten small] at code
      have zero : '0'.toNat = 48 := rfl
      omega
    · rw [Nat.toDigits_of_base_le (by decide) (by omega), List.head?_append]
      have nonempty : (Nat.toDigits 10 (n / 10)).head? ≠ none := by
        rw [ne_eq, List.head?_eq_none_iff]
        exact Nat.toDigits_ne_nil
      cases first : (Nat.toDigits 10 (n / 10)).head? with
      | none => exact absurd first nonempty
      | some c =>
        rw [Option.some_or, ← first]
        exact ih (n / 10) (by omega) (by omega)

/-- `Number(String(n))` -/
theorem parse_toDigits {n : Nat} (positive : 0 < n) (small : n < 2 ^ 53) :
    parse (Nat.toDigits 10 n) = .finite n := by
  rw [parse_digits Nat.toDigits_ne_nil isDigit_toDigits (head_toDigits positive),
    digitsValue_toDigits, roundToDouble_natCast small]

end NodeRedBull.Js.JsNumber
