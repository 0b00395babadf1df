import FilterScript.Number.Shortest
import FilterScript.Proofs.Number.Notation
import FilterScript.Proofs.Number.Rounding

/-!
# Numbers that read back

A number of the binary format is written with digits that are nearest to no other number of the format. The
digits are tried until they read back, so what has to be shown is that reading depends on the number that
digits stand for and not on how many zeros are among them, and that the number itself, which comes last, is
read without rounding.

* **Exact** (`ofQuotient_eq_finite`): a quotient that the format has is not rounded.
* **Zeros** (`ofDecimal_append_zeros`): zeros at the end of the digits do not change what is read.
* **Read back** (`ofDecimal_shortest`, `exists_isNumeral_plainText`): every finite number is read back from
  the digits that it is written with, which stand in positional notation.
-/

namespace FilterScript.Binary64

/-! ## Quotients -/

/-- The binary exponent bounds the quotient from above. -/
theorem lt_zpow_binaryExponent (n : Nat) {d : Nat} (positive : 0 < d) :
    (n / d : Rat) < 2 ^ (binaryExponent n d + 1) := by
  have pos : (0 : Rat) < d := by exact_mod_cast positive
  have above : (n : Rat) < 2 ^ ((Nat.log2 n : Int) - Nat.log2 d + 1) * d := by
    have high : (n : Rat) < 2 ^ (Nat.log2 n + 1) := by exact_mod_cast Nat.lt_log2_self
    have low : (2 : Rat) ^ Nat.log2 d ≤ d := by exact_mod_cast Nat.log2_self_le positive.ne'
    calc (n : Rat) < 2 ^ (Nat.log2 n + 1) := high
      _ = 2 ^ ((Nat.log2 n : Int) - Nat.log2 d + 1) * 2 ^ Nat.log2 d := by
          rw [← zpow_natCast, ← zpow_natCast, ← zpow_add₀ two_ne_zero]
          congr 1
          push_cast
          ring
      _ ≤ 2 ^ ((Nat.log2 n : Int) - Nat.log2 d + 1) * d :=
          mul_le_mul_of_nonneg_left low (by positivity)
  rw [div_lt_iff₀ pos]
  unfold binaryExponent
  generalize (Nat.log2 n : Int) - Nat.log2 d = k at above
  cases k with
  | ofNat j =>
    dsimp only
    split
    · exact above
    · next missed =>
      have missed : n < d * Nat.pow 2 j := by simpa using missed
      rw [sub_add_cancel, Int.ofNat_eq_natCast, zpow_natCast, mul_comm]
      exact_mod_cast missed
  | negSucc j =>
    dsimp only
    split
    · exact above
    · next missed =>
      have missed : n * Nat.pow 2 (j + 1) < d := by simpa using missed
      rw [sub_add_cancel, zpow_negSucc, lt_inv_mul_iff₀ (by positivity), mul_comm]
      exact_mod_cast missed

/-- The leading binary digit of a quotient is found from its size. -/
theorem binaryExponent_eq {n d : Nat} {k : Int} (some : 0 < n) (positive : 0 < d)
    (low : (2 : Rat) ^ k ≤ n / d) (high : (n / d : Rat) < 2 ^ (k + 1)) : binaryExponent n d = k := by
  have above := (zpow_lt_zpow_iff_right₀ one_lt_two).1
    (low.trans_lt (lt_zpow_binaryExponent n positive))
  have below := (zpow_lt_zpow_iff_right₀ one_lt_two).1
    ((zpow_binaryExponent_le some positive).trans_lt high)
  omega

/-- A common factor does not change a rounded quotient. -/
theorem roundQuotient_mul (n d : Nat) {j : Nat} (positive : 0 < j) :
    roundQuotient (n * j) (d * j) = roundQuotient n d := by
  have twice : 2 * (n % d * j) = 2 * (n % d) * j := by ring
  simp only [roundQuotient, Nat.mul_div_mul_right n d positive, Nat.mul_mod_mul_right, twice,
    Nat.mul_lt_mul_right positive]

/-- A common factor does not change the rounding at a place. -/
theorem roundAt_mul (n d : Nat) {j : Nat} (positive : 0 < j) (e : Int) :
    roundAt (n * j) (d * j) e = roundAt n d e := by
  cases e with
  | ofNat k =>
    simp only [roundAt]
    rw [Nat.mul_right_comm, roundQuotient_mul _ _ positive]
  | negSucc k =>
    simp only [roundAt]
    rw [Nat.mul_right_comm, roundQuotient_mul _ _ positive]

/-- A quotient may be expanded. -/
theorem ofQuotient_mul (negative : Bool) (n d : Nat) {j : Nat} (positive : 0 < j) :
    ofQuotient negative (n * j) (d * j) = ofQuotient negative n d := by
  by_cases zero : n = 0 ∨ d = 0
  · have more : n * j = 0 ∨ d * j = 0 := by
      rcases zero with rfl | rfl <;> simp
    rw [ofQuotient, if_pos more, ofQuotient, if_pos zero]
  · obtain ⟨n_pos, d_pos⟩ : 0 < n ∧ 0 < d := by omega
    have same : ((n * j : Nat) : Rat) / (d * j : Nat) = n / d := by
      have : (j : Rat) ≠ 0 := by exact_mod_cast positive.ne'
      push_cast
      exact mul_div_mul_right _ _ this
    have exponent : binaryExponent (n * j) (d * j) = binaryExponent n d := by
      refine binaryExponent_eq (Nat.mul_pos n_pos positive) (Nat.mul_pos d_pos positive) ?_ ?_
      · rw [same]
        exact zpow_binaryExponent_le n_pos d_pos
      · rw [same]
        exact lt_zpow_binaryExponent n d_pos
    have more : ¬(n * j = 0 ∨ d * j = 0) := by
      simp only [Nat.mul_eq_zero]
      omega
    rw [ofQuotient, if_neg more, ofQuotient, if_neg zero]
    simp only [exponent, roundAt_mul n d positive]

/-- **Exact**: a quotient that the format has is not rounded. -/
theorem ofQuotient_eq_finite {negative : Bool} {m n d : Nat} {e : Int} (canonical : Canonical m e)
    (some : 0 < m) (positive : 0 < d) (value : (n / d : Rat) = m * 2 ^ e) :
    ofQuotient negative n d = finite negative m e canonical := by
  have pos : (0 : Rat) < d := by exact_mod_cast positive
  have unit : (0 : Rat) < 2 ^ e := by positivity
  have m_pos : (0 : Rat) < m := by exact_mod_cast some
  have n_pos : 0 < n := by
    have : (0 : Rat) < n / d := value ▸ mul_pos m_pos unit
    exact_mod_cast (div_pos_iff_of_pos_right pos).1 this
  obtain ⟨digits, least, -, full⟩ := id canonical
  have size : (n / d : Rat) < 2 ^ (53 + e) := by
    rw [value, zpow_add₀ two_ne_zero]
    refine mul_lt_mul_of_pos_right ?_ unit
    exact_mod_cast digits
  -- The exponent of the format is the one that is found.
  have place : max (binaryExponent n d - 52) (-1074) = e := by
    have above := (zpow_lt_zpow_iff_right₀ one_lt_two).1
      ((zpow_binaryExponent_le n_pos positive).trans_lt size)
    rcases full with full | rfl
    · have low : (2 : Rat) ^ (52 + e) ≤ n / d := by
        rw [value, zpow_add₀ two_ne_zero]
        refine mul_le_mul_of_nonneg_right ?_ unit.le
        exact_mod_cast full
      have below := (zpow_lt_zpow_iff_right₀ one_lt_two).1
        (low.trans_lt (lt_zpow_binaryExponent n positive))
      omega
    · omega
  have mantissa : roundAt n d e = m := by
    have near := abs_roundAt_sub_le n positive e
    rw [value, mul_div_cancel_right₀ _ unit.ne'] at near
    have close : |((roundAt n d e : Int) : Rat) - (m : Int)| < 1 := by
      push_cast
      linarith
    have same : |(roundAt n d e : Int) - m| < 1 := by exact_mod_cast close
    rw [Int.abs_lt_one_iff] at same
    omega
  have notZero : ¬(n = 0 ∨ d = 0) := by omega
  rw [ofQuotient, if_neg notZero]
  simp only [place, mantissa]
  rw [if_neg digits.ne, ofFields, dif_pos canonical]

/-! ## Decimals -/

/-- A number with a minus sign is the opposite one. -/
theorem ofDecimal_true (c : Nat) (e : Int) : ofDecimal ⟨true, c, e⟩ = (ofDecimal ⟨false, c, e⟩).neg := by
  have fields (m : Nat) (e : Int) : ofFields true m e = (ofFields false m e).neg := by
    unfold ofFields
    split <;> rfl
  have quotient (n d : Nat) : ofQuotient true n d = (ofQuotient false n d).neg := by
    simp only [ofQuotient, fields]
    split_ifs <;> rfl
  have leading : Decimal.leadingExponent ⟨true, c, e⟩ = Decimal.leadingExponent ⟨false, c, e⟩ := rfl
  unfold ofDecimal
  simp only [leading]
  split_ifs
  · rfl
  · rfl
  · rfl
  · cases e <;> exact quotient _ _

/-- A zero at the end of the digits does not change what is read. -/
theorem ofDecimal_mul_ten (negative : Bool) (c : Nat) (e : Int) :
    ofDecimal ⟨negative, c * 10, e - 1⟩ = ofDecimal ⟨negative, c, e⟩ := by
  by_cases zero : c = 0
  · simp [ofDecimal, zero]
  have leading : Decimal.leadingExponent ⟨negative, c * 10, e - 1⟩ =
      Decimal.leadingExponent ⟨negative, c, e⟩ := by
    have digits : Numeral.digits (c * 10) = Numeral.digits c ++ ['0'] := by
      have := Nat.toDigits_append_toDigits (b := 10) (n := c) (d := 0) (by decide) (by omega) (by decide)
      rw [Nat.add_zero, Nat.mul_comm] at this
      exact this.symm
    simp only [Decimal.leadingExponent, Decimal.digits, digits, List.length_append,
      List.length_singleton]
    push_cast
    ring
  unfold ofDecimal
  simp only [leading, Nat.mul_eq_zero, zero, OfNat.ofNat_ne_zero, or_self, if_false]
  split_ifs
  · rfl
  · rfl
  · cases e with
    | ofNat k =>
      cases k with
      | zero =>
        -- the point comes before the zero
        show ofQuotient negative (c * 10) (Nat.pow 10 1) = ofQuotient negative (c * Nat.pow 10 0) 1
        rw [show c * Nat.pow 10 0 = c from Nat.mul_one c]
        exact ofQuotient_mul negative c 1 (by decide : 0 < 10)
      | succ k =>
        have less : Int.ofNat (k + 1) - 1 = Int.ofNat k := by simp
        simp only [less]
        congr 1
        show c * 10 * 10 ^ k = c * 10 ^ (k + 1)
        ring
    | negSucc k =>
      have less : Int.negSucc k - 1 = Int.negSucc (k + 1) := rfl
      simp only [less]
      exact ofQuotient_mul negative c (Nat.pow 10 (k + 1)) (by decide : 0 < 10)

/-- **Zeros** at the end of the digits do not change what is read. -/
theorem ofDecimal_append_zeros (negative : Bool) (c k : Nat) (e : Int) :
    ofDecimal ⟨negative, c * 10 ^ k, e - k⟩ = ofDecimal ⟨negative, c, e⟩ := by
  induction k with
  | zero => simp
  | succ k ih =>
    have more := ofDecimal_mul_ten negative (c * 10 ^ k) (e - k)
    rw [← ih, ← more]
    congr 2
    · ring
    · push_cast
      ring

/-- Dropping trailing zeros changes neither the sign nor the number read. -/
theorem dropZeros_eq (fuel : Nat) (d : Decimal) :
    (d.dropZeros fuel).negative = d.negative ∧ ofDecimal (d.dropZeros fuel) = ofDecimal d := by
  induction fuel generalizing d with
  | zero => exact ⟨rfl, rfl⟩
  | succ fuel ih =>
    unfold Decimal.dropZeros
    split
    · next tens =>
      obtain ⟨sign, same⟩ := ih ⟨d.negative, d.coefficient / 10, d.exponent + 1⟩
      refine ⟨sign, same.trans ?_⟩
      have back := ofDecimal_mul_ten d.negative (d.coefficient / 10) (d.exponent + 1)
      rw [Nat.div_mul_cancel (Nat.dvd_of_mod_eq_zero tens.2), add_sub_cancel_right] at back
      exact back.symm
    · exact ⟨rfl, rfl⟩

/-! ## The digits of a number -/

/-- The size of a decimal as a power of ten. -/
theorem magnitude_eq (d : Decimal) : d.magnitude = d.coefficient * (10 : Rat) ^ d.exponent := by
  obtain ⟨negative, c, e⟩ := d
  cases e with
  | ofNat k =>
    simp only [Decimal.magnitude, Rat.mkRat_eq_div]
    simp
  | negSucc k =>
    simp only [Decimal.magnitude, Rat.mkRat_eq_div, zpow_negSucc, div_eq_mul_inv]
    simp

/-- Digits that are neither too large nor too small for the format are read as a quotient. -/
theorem exists_ofDecimal_eq {d : Decimal} (some : 0 < d.coefficient) (low : -400 ≤ d.leadingExponent)
    (high : d.leadingExponent ≤ 400) :
    ∃ n q : Nat, 0 < q ∧ (n / q : Rat) = d.magnitude ∧ ofDecimal d = ofQuotient d.negative n q := by
  unfold ofDecimal
  rw [if_neg some.ne', if_neg (not_lt.2 high), if_neg (not_lt.2 low)]
  obtain ⟨negative, c, e⟩ := d
  cases e with
  | ofNat k => exact ⟨c * Nat.pow 10 k, 1, one_pos, (Rat.mkRat_eq_div _ _).symm, rfl⟩
  | negSucc k =>
    exact ⟨c, Nat.pow 10 (k + 1), Nat.pow_pos (by decide), (Rat.mkRat_eq_div _ _).symm, rfl⟩

/-- The exact decimal of a positive number is positive. -/
theorem coefficient_exactDecimal_pos {m : Nat} (some : 0 < m) (e : Int) :
    0 < (exactDecimal m e).coefficient := by
  cases e with
  | ofNat k => exact Nat.mul_pos some (Nat.two_pow_pos k)
  | negSucc k => exact Nat.mul_pos some (Nat.pow_pos (by decide))

/-- The exact digits of a number stand for it. -/
theorem magnitude_exactDecimal (m : Nat) (e : Int) :
    (exactDecimal m e).magnitude = m * (2 : Rat) ^ e := by
  rw [magnitude_eq]
  cases e with
  | ofNat k => simp [exactDecimal]
  | negSucc k =>
    have ten : (10 : Rat) ^ (k + 1) = 2 ^ (k + 1) * 5 ^ (k + 1) := by
      rw [← mul_pow]
      norm_num
    have power : (10 : Rat) ^ (-((k : Int) + 1)) = (10 ^ (k + 1))⁻¹ := by
      rw [← Int.negSucc_eq, zpow_negSucc]
    simp only [exactDecimal, zpow_negSucc, Nat.pow_eq, power, ten]
    push_cast
    field_simp

/-- A number is as large as the power of ten of its leading digit says, and less than ten times
that. -/
theorem zpow_leadingExponent_le {d : Decimal} (some : 0 < d.coefficient) :
    (10 : Rat) ^ d.leadingExponent ≤ d.magnitude ∧ d.magnitude < 10 ^ (d.leadingExponent + 1) := by
  have ten : (0 : Rat) < 10 ^ d.exponent := by positivity
  have one : 0 < d.digits.length := Nat.length_toDigits_pos
  have low : 10 ^ (d.digits.length - 1) ≤ d.coefficient := by
    by_contra less
    rcases Nat.eq_zero_or_pos (d.digits.length - 1) with single | several
    · rw [single] at less
      omega
    · have few := (Nat.length_toDigits_le_iff (b := 10) (by decide) several).2 (not_le.1 less)
      have : d.digits.length ≤ d.digits.length - 1 := few
      omega
  have high : d.coefficient < 10 ^ d.digits.length :=
    (Nat.length_toDigits_le_iff (by decide) one).1 le_rfl
  have front : d.leadingExponent = (d.digits.length - 1 : Nat) + d.exponent := by
    rw [Decimal.leadingExponent]
    omega
  have behind : d.leadingExponent + 1 = d.digits.length + d.exponent := by
    rw [Decimal.leadingExponent]
    omega
  rw [magnitude_eq, behind, front, zpow_add₀ (by decide), zpow_add₀ (by decide), zpow_natCast,
    zpow_natCast]
  constructor
  · refine mul_le_mul_of_nonneg_right ?_ ten.le
    exact_mod_cast low
  · refine mul_lt_mul_of_pos_right ?_ ten
    exact_mod_cast high

/-- The powers of two in range are below ten to the 400. -/
theorem zpow_two_le_zpow_ten {k : Int} (small : k ≤ 1200) : (2 : Rat) ^ k ≤ 10 ^ (400 : Int) := by
  calc (2 : Rat) ^ k ≤ 2 ^ ((3 : Int) * 400) := zpow_le_zpow_right₀ one_le_two small
    _ = (2 ^ (3 : Int)) ^ (400 : Int) := zpow_mul 2 3 400
    _ ≤ 10 ^ (400 : Int) := zpow_le_zpow_left₀ (by decide) (by norm_num) (by norm_num)

/-- The numbers of the format are neither so large that they are read as infinity nor so small that
they are read as zero. -/
theorem leadingExponent_exactDecimal {m : Nat} {e : Int} (canonical : Canonical m e) (some : 0 < m) :
    -400 ≤ (exactDecimal m e).leadingExponent ∧ (exactDecimal m e).leadingExponent ≤ 400 := by
  obtain ⟨digits, least, most, -⟩ := canonical
  have ten : (1 : Rat) < 10 := by norm_num
  obtain ⟨low, high⟩ := zpow_leadingExponent_le (coefficient_exactDecimal_pos some e)
  rw [magnitude_exactDecimal] at low high
  constructor
  · have reached : (10 : Rat) ^ (-400 : Int) ≤ m * 2 ^ e := by
      calc (10 : Rat) ^ (-400 : Int) ≤ 2 ^ e := by
            rw [zpow_neg, inv_le_comm₀ (by positivity) (by positivity), ← zpow_neg]
            exact zpow_two_le_zpow_ten (by omega)
        _ ≤ m * 2 ^ e := le_mul_of_one_le_left (by positivity) (by exact_mod_cast some)
    have := (zpow_lt_zpow_iff_right₀ ten).1 (reached.trans_lt high)
    omega
  · have within : (m : Rat) * 2 ^ e < 10 ^ (400 : Int) := by
      calc (m : Rat) * 2 ^ e < 2 ^ (53 : Int) * 2 ^ e := by
            refine mul_lt_mul_of_pos_right ?_ (by positivity)
            exact_mod_cast digits
        _ = 2 ^ (53 + e) := (zpow_add₀ two_ne_zero 53 e).symm
        _ ≤ 10 ^ (400 : Int) := zpow_two_le_zpow_ten (by omega)
    have := (zpow_lt_zpow_iff_right₀ ten).1 (low.trans_lt within)
    omega

/-- All digits of a number together are read without rounding. -/
theorem ofDecimal_exactDecimal {m : Nat} {e : Int} (canonical : Canonical m e) (some : 0 < m) :
    ofDecimal (exactDecimal m e) = finite false m e canonical := by
  obtain ⟨low, high⟩ := leadingExponent_exactDecimal canonical some
  obtain ⟨n, q, positive, value, quotient⟩ :=
    exists_ofDecimal_eq (coefficient_exactDecimal_pos some e) low high
  rw [quotient]
  have plain : (exactDecimal m e).negative = false := by
    cases e <;> rfl
  rw [plain]
  exact ofQuotient_eq_finite canonical some positive (value.trans (magnitude_exactDecimal m e))

/-- What the search for the shortest decimal finds is read back as the target. -/
theorem shortestFrom_eq_some {target : Binary64} {n d fuel count : Nat} {c : Decimal}
    (found : shortestFrom target n d fuel count = some c) :
    c.negative = false ∧ ofDecimal c = target := by
  induction fuel generalizing count with
  | zero => cases found
  | succ fuel ih =>
    unfold shortestFrom at found
    split at found
    · next first hit =>
      obtain rfl := Option.some.inj found
      have reads := List.find?_some hit
      refine ⟨?_, beq_iff_eq.1 reads⟩
      have member := List.mem_of_find?_eq_some hit
      simp only [neighbours] at member
      split at member
      · rcases List.mem_pair.1 member with rfl | rfl <;> rfl
      · rcases List.mem_pair.1 member with rfl | rfl <;> rfl
    · exact ih found

/-- **Read back**: the digits that a number is written with are read as the number. -/
theorem ofDecimal_shortest (negative : Bool) {m : Nat} {e : Int} (canonical : Canonical m e) :
    ofDecimal (shortest negative m e canonical) = finite negative m e canonical := by
  unfold shortest
  split
  · next zero =>
    subst zero
    obtain rfl : e = -1074 := canonical.2.2.2.resolve_left (by decide)
    rfl
  · next nonzero =>
    dsimp only
    generalize tried : shortestFrom _ _ _ 17 1 = found
    have reads : (found.getD (exactDecimal m e)).negative = false ∧
        ofDecimal (found.getD (exactDecimal m e)) = finite false m e canonical := by
      cases found with
      | some c => exact shortestFrom_eq_some tried
      | none =>
        refine ⟨?_, ofDecimal_exactDecimal canonical (Nat.pos_of_ne_zero nonzero)⟩
        cases e <;> rfl
    generalize found.getD (exactDecimal m e) = digits at reads
    obtain ⟨sign, same⟩ := dropZeros_eq digits.digits.length digits
    rw [reads.1] at sign
    rw [reads.2] at same
    change ofDecimal ⟨negative, digits.reduced.coefficient, digits.reduced.exponent⟩ = _
    have positive : ofDecimal ⟨false, digits.reduced.coefficient, digits.reduced.exponent⟩ =
        finite false m e canonical := by
      rw [← same, ← sign]
      rfl
    cases negative with
    | false => exact positive
    | true => rw [ofDecimal_true, positive]; rfl

/-- **Read back**: a finite number is written for scripts as a numeral that is read as the number.
-/
theorem exists_isNumeral_plainText {x : Binary64} (finite : x.isFinite = true) :
    ∃ d : Decimal, d.IsNumeral x.plainText.toList ∧ ofDecimal d = x := by
  cases x with
  | nan => cases finite
  | infinite negative => cases finite
  | finite negative m e canonical =>
    obtain ⟨k, numeral⟩ := Decimal.exists_isNumeral_plain (shortest negative m e canonical)
    exact ⟨_, numeral, (ofDecimal_append_zeros ..).trans (ofDecimal_shortest negative canonical)⟩

/-! ## Whole numbers -/

/-- A finite number that is a whole one is equal to it. -/
theorem toRat?_of_toInt? {x : Binary64} {n : Int} (whole : x.toInt? = some n) :
    x.toRat? = some (n : Rat) := by
  have signed (negative : Bool) (k : Nat) {q : Rat} (value : q = k) :
      (if negative then -q else q) = (Numeral.signed negative k : Int) := by
    cases negative <;> simp [Numeral.signed, value]
  cases x with
  | nan => cases whole
  | infinite negative => cases whole
  | finite negative m e canonical =>
    cases e with
    | ofNat k =>
      obtain rfl := Option.some.inj whole
      refine congrArg some (signed negative _ ?_)
      simp [scaled_eq]
    | negSucc k =>
      simp only [toInt?] at whole
      split at whole
      · next even =>
        obtain rfl := Option.some.inj whole
        refine congrArg some (signed negative _ ?_)
        obtain ⟨j, rfl⟩ := Nat.dvd_of_mod_eq_zero even
        have unit : 0 < Nat.pow 2 (k + 1) := Nat.two_pow_pos _
        have pos : (Nat.pow 2 (k + 1) : Rat) ≠ 0 := by exact_mod_cast unit.ne'
        rw [scaled, Rat.mkRat_eq_div, Nat.mul_div_cancel_left j unit]
        push_cast
        exact mul_div_cancel_left₀ _ (by exact_mod_cast pos)
      · cases whole

end FilterScript.Binary64
