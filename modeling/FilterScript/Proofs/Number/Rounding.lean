import FilterScript.Number.Binary64
import Mathlib.Algebra.Order.Field.Power
import Mathlib.Algebra.Order.Field.Rat
import Mathlib.Data.Rat.Floor
import Mathlib.Tactic.Linarith
import Mathlib.Tactic.NormNum
import Mathlib.Tactic.Positivity
import Mathlib.Tactic.Ring

/-!
# Rounding

What becomes of a rational number that is rounded to the binary format, where it is not beyond the range.
A unit is the power of two that the last digit of the mantissa counts.

* **Nearest** (`exists_place`): a rounded number is a whole number of units and at most half a unit off, and a
  unit is the least power of two that the format has, or small beside the number.
* **Error** (`abs_sub_le_of_ofRat`): how far a number of a known size is moved.
* **Exact** (`eq_of_ofRat`): a number of at most 53 binary digits is not moved.
* **Sign** (`nonneg_of_ofRat`): no number changes its sign.
* **Whole part** (`eq_of_ofInt_truncate`): that of a number of the format is one too.
* **Operations** (`toRat?_lift`): the result of an operation is that of the rationals, rounded.
-/

namespace FilterScript.Binary64

/-! ## Whole numbers of units -/

/-- A scaled number as a power of two. -/
theorem scaled_eq (m : Nat) (e : Int) : scaled m e = m * (2 : Rat) ^ e := by
  cases e with
  | ofNat k =>
    rw [scaled, Rat.mkRat_eq_div]
    simp
  | negSucc k =>
    rw [scaled, Rat.mkRat_eq_div, zpow_negSucc, div_eq_mul_inv]
    simp

/-- The whole number next to a quotient is at most one half off. -/
theorem abs_roundQuotient_sub_le (n : Nat) {d : Nat} (positive : 0 < d) :
    |(roundQuotient n d : Rat) - n / d| ≤ 1 / 2 := by
  have pos : (0 : Rat) < d := by exact_mod_cast positive
  have near : 2 * n ≤ 2 * (roundQuotient n d * d) + d ∧
      2 * (roundQuotient n d * d) ≤ 2 * n + d := by
    have cut := Nat.div_add_mod n d
    have rest := Nat.mod_lt n positive
    rw [Nat.mul_comm] at cut
    unfold roundQuotient
    dsimp only
    split_ifs
    · omega
    · rw [Nat.add_mul]
      omega
    · omega
    · rw [Nat.add_mul]
      omega
  have below : (2 : Rat) * n ≤ 2 * (roundQuotient n d * d) + d := by exact_mod_cast near.1
  have above : (2 : Rat) * (roundQuotient n d * d) ≤ 2 * n + d := by exact_mod_cast near.2
  have quotient : (n : Rat) = n / d * d := (div_mul_cancel₀ _ pos.ne').symm
  rw [abs_le]
  constructor
  · refine le_of_mul_le_mul_right ?_ pos
    linarith
  · refine le_of_mul_le_mul_right ?_ pos
    linarith

/-- The mantissa of a quotient is the quotient in units, at most one half off. -/
theorem abs_roundAt_sub_le (n : Nat) {d : Nat} (positive : 0 < d) (e : Int) :
    |(roundAt n d e : Rat) - n / d / 2 ^ e| ≤ 1 / 2 := by
  cases e with
  | ofNat k =>
    have near := abs_roundQuotient_sub_le n (Nat.mul_pos positive (Nat.two_pow_pos k))
    simpa [roundAt, div_div] using near
  | negSucc k =>
    have near := abs_roundQuotient_sub_le (n * Nat.pow 2 (k + 1)) positive
    rw [zpow_negSucc, div_inv_eq_mul, div_mul_eq_mul_div]
    simpa [roundAt] using near

/-- The binary exponent bounds the quotient from below. -/
theorem zpow_binaryExponent_le {n d : Nat} (some : 0 < n) (positive : 0 < d) :
    (2 : Rat) ^ binaryExponent n d ≤ n / d := by
  have pos : (0 : Rat) < d := by exact_mod_cast positive
  have below : (2 : Rat) ^ ((Nat.log2 n : Int) - Nat.log2 d - 1) * d ≤ n := by
    have low : (2 : Rat) ^ Nat.log2 n ≤ n := by exact_mod_cast Nat.log2_self_le some.ne'
    have high : (d : Rat) ≤ 2 ^ (Nat.log2 d + 1) := by exact_mod_cast Nat.lt_log2_self.le
    calc (2 : Rat) ^ ((Nat.log2 n : Int) - Nat.log2 d - 1) * d
        ≤ 2 ^ ((Nat.log2 n : Int) - Nat.log2 d - 1) * 2 ^ (Nat.log2 d + 1) :=
          mul_le_mul_of_nonneg_left high (by positivity)
      _ = 2 ^ Nat.log2 n := by
          rw [← zpow_natCast, ← zpow_natCast, ← zpow_add₀ two_ne_zero]
          congr 1
          push_cast
          ring
      _ ≤ n := low
  rw [le_div_iff₀ pos]
  unfold binaryExponent
  generalize (Nat.log2 n : Int) - Nat.log2 d = k at below
  cases k with
  | ofNat j =>
    dsimp only
    split
    · next reached =>
      have reached : d * Nat.pow 2 j ≤ n := of_decide_eq_true reached
      rw [Int.ofNat_eq_natCast, zpow_natCast, mul_comm]
      exact_mod_cast reached
    · exact below
  | negSucc j =>
    dsimp only
    split
    · next reached =>
      have reached : d ≤ n * Nat.pow 2 (j + 1) := of_decide_eq_true reached
      rw [zpow_negSucc, inv_mul_le_iff₀ (by positivity), mul_comm]
      exact_mod_cast reached
    · exact below

/-! ## The rounded number -/

/-- The value of a finite number, from its fields. -/
theorem toRat?_ofFields {negative : Bool} {m : Nat} {e : Int} {r : Rat}
    (is : (ofFields negative m e).toRat? = some r) :
    r = (if negative then -1 else 1) * (m * 2 ^ e) := by
  unfold ofFields at is
  split at is
  · rw [toRat?, Option.some.injEq, scaled_eq] at is
    rw [← is]
    split <;> ring
  · cases is

/-- The power of two that the last digit of a rounded quotient counts. -/
def place (n d : Nat) : Int :=
  max (binaryExponent n d - 52) (-1074)

/-- The value of a rounded quotient, where it is finite. -/
theorem toRat?_ofQuotient {negative : Bool} {n d : Nat} {r : Rat} (some : 0 < n) (positive : 0 < d)
    (is : (ofQuotient negative n d).toRat? = .some r) :
    r = (if negative then -1 else 1) * (roundAt n d (place n d) * 2 ^ place n d) := by
  unfold ofQuotient at is
  rw [if_neg (by omega)] at is
  dsimp only at is
  change (if roundAt n d (place n d) = Nat.pow 2 53 then
    ofFields negative (Nat.pow 2 52) (place n d + 1)
    else ofFields negative (roundAt n d (place n d)) (place n d)).toRat? = _ at is
  split at is
  · next carried =>
    -- The mantissa of 54 digits ends in a zero, and is kept without it.
    rw [toRat?_ofFields is, carried, zpow_add_one₀ two_ne_zero]
    congr 1
    push_cast
    ring
  · exact toRat?_ofFields is

/-- Both zeros have the value zero. -/
@[simp] theorem toRat?_zero (negative : Bool) : (zero negative).toRat? = some 0 := by
  cases negative <;> decide +kernel

/-- A quotient without a sign is rounded to no negative number. -/
theorem nonneg_of_ofQuotient {n d : Nat} {r : Rat} (is : (ofQuotient false n d).toRat? = some r) :
    0 ≤ r := by
  by_cases zero : n = 0 ∨ d = 0
  · rw [ofQuotient, if_pos zero, toRat?_zero, Option.some.injEq] at is
    exact is.le
  · rw [toRat?_ofQuotient (by omega) (by omega) is]
    simp
    positivity

/-- The size of a rational, from its numerator and denominator. -/
theorem abs_eq_natAbs_num_div (q : Rat) : |q| = q.num.natAbs / q.den := by
  conv_lhs => rw [← Rat.num_div_den q]
  rw [abs_div, Nat.abs_cast, Nat.cast_natAbs, Int.cast_abs]

/-- A number is rounded without its sign, which is put in front again. -/
theorem toRat?_ofRat {q r : Rat} (nonzero : q ≠ 0) (is : (ofRat q).toRat? = some r) :
    let p := place q.num.natAbs q.den
    ∃ s : Int, |s| = 1 ∧ q = s * |q| ∧ r = s * (roundAt q.num.natAbs q.den p * 2 ^ p) := by
  have value := toRat?_ofQuotient (Int.natAbs_pos.2 (Rat.num_ne_zero.2 nonzero)) q.den_pos is
  by_cases negative : q < 0
  · refine ⟨-1, rfl, ?_, ?_⟩
    · rw [abs_of_neg negative]
      push_cast
      ring
    · rw [value, if_pos (decide_eq_true (Rat.num_neg.2 negative))]
      push_cast
      ring
  · have nonneg : ¬q.num < 0 := fun h => negative (Rat.num_neg.1 h)
    refine ⟨1, rfl, ?_, ?_⟩
    · rw [abs_of_nonneg (not_lt.1 negative), Int.cast_one, one_mul]
    · rw [value, if_neg (by simpa using nonneg), Int.cast_one]

/-- A decimal without a sign is read as no negative number. -/
theorem nonneg_of_ofDecimal {c : Nat} {e : Int} {r : Rat}
    (is : (ofDecimal ⟨false, c, e⟩).toRat? = some r) : 0 ≤ r := by
  have zero : (zero false).toRat? = some r → 0 ≤ r := by
    intro is
    rw [toRat?_zero, Option.some.injEq] at is
    exact is.le
  unfold ofDecimal at is
  split at is
  · exact zero is
  · split at is
    · cases is
    · split at is
      · exact zero is
      · split at is
        · exact nonneg_of_ofQuotient is
        · exact nonneg_of_ofQuotient is

/-- **Nearest**: a rounded number is a whole number of units next to the number. -/
theorem exists_place {q r : Rat} (is : (ofRat q).toRat? = some r) :
    ∃ p j : Int, r = j * 2 ^ p ∧ |r - q| ≤ 2 ^ p / 2 ∧ -1074 ≤ p ∧
      (p = -1074 ∨ (2 : Rat) ^ (p + 52) ≤ |q|) := by
  by_cases zero : q = 0
  · subst zero
    obtain rfl : 0 = r := Option.some.inj ((toRat?_zero false).symm.trans is)
    exact ⟨-1074, 0, by simp, by simp; positivity, le_rfl, .inl rfl⟩
  obtain ⟨s, unit, signed, value⟩ := toRat?_ofRat zero is
  set p := place q.num.natAbs q.den with unitOf
  set m := roundAt q.num.natAbs q.den p
  have pos : (0 : Rat) < 2 ^ p := by positivity
  have near : |(m : Rat) - |q| / 2 ^ p| ≤ 1 / 2 := by
    rw [abs_eq_natAbs_num_div q]
    exact abs_roundAt_sub_le _ q.den_pos p
  refine ⟨p, s * m, ?_, ?_, le_max_right _ _, ?_⟩
  · rw [value]
    push_cast
    ring
  · have apart : r - q = s * (m - |q| / 2 ^ p) * 2 ^ p := by
      rw [mul_assoc, sub_mul, div_mul_cancel₀ _ pos.ne', mul_sub, ← signed, value]
    rw [apart, abs_mul, abs_mul, abs_of_pos pos, ← Int.cast_abs, unit, Int.cast_one, one_mul]
    linarith [mul_le_mul_of_nonneg_right near pos.le]
  · rcases max_choice (binaryExponent q.num.natAbs q.den - 52) (-1074) with normal | least
    · right
      have leading : p + 52 = binaryExponent q.num.natAbs q.den := by
        rw [unitOf, place, normal]
        ring
      rw [leading, abs_eq_natAbs_num_div q]
      exact zpow_binaryExponent_le (Int.natAbs_pos.2 (Rat.num_ne_zero.2 zero)) q.den_pos
    · exact .inl least

/-- **Error**: a number of a known size is moved by little. -/
theorem abs_sub_le_of_ofRat {q r : Rat} {k : Int} (is : (ofRat q).toRat? = some r)
    (small : |q| < 2 ^ (k + 1)) (normal : -1022 ≤ k) : |r - q| ≤ 2 ^ (k - 53) := by
  obtain ⟨p, -, -, near, -, least⟩ := exists_place is
  have bound : p ≤ k - 52 := by
    rcases least with rfl | reached
    · omega
    · have := (zpow_lt_zpow_iff_right₀ one_lt_two).1 (reached.trans_lt small)
      omega
  calc |r - q| ≤ 2 ^ p / 2 := near
    _ ≤ 2 ^ (k - 52) / 2 := by gcongr; exact one_le_two
    _ = 2 ^ (k - 53) := by rw [div_eq_mul_inv, ← zpow_sub_one₀ two_ne_zero]; congr 1; ring

/-- **Exact**: a number of at most 53 binary digits is not moved. -/
theorem eq_of_ofRat {r : Rat} {i e : Int} (is : (ofRat (i * 2 ^ e)).toRat? = some r)
    (digits : |i| < Nat.pow 2 53) (least : -1074 ≤ e) : r = i * 2 ^ e := by
  obtain ⟨p, j, value, near, -, unit⟩ := exists_place is
  have pos : (0 : Rat) < 2 ^ p := by positivity
  have finer : p ≤ e := by
    rcases unit with rfl | reached
    · exact least
    · have size : |(i * 2 ^ e : Rat)| < 2 ^ (53 + e) := by
        have power : (0 : Rat) < 2 ^ e := by positivity
        rw [abs_mul, abs_of_pos power, zpow_add₀ two_ne_zero]
        refine mul_lt_mul_of_pos_right ?_ (by positivity)
        exact_mod_cast digits
      have := (zpow_lt_zpow_iff_right₀ one_lt_two).1 (reached.trans_lt size)
      omega
  obtain ⟨k, rfl⟩ := Int.exists_add_of_le finer
  have inUnits : (i * 2 ^ (p + k) : Rat) = (i * 2 ^ k : Int) * 2 ^ p := by
    rw [zpow_add₀ two_ne_zero, zpow_natCast]
    push_cast
    ring
  rw [inUnits, value] at near ⊢
  rw [← sub_mul, abs_mul, abs_of_pos pos] at near
  have close : |(j : Rat) - (i * 2 ^ k : Int)| < 1 := by
    have : |(j : Rat) - (i * 2 ^ k : Int)| ≤ 1 / 2 := le_of_mul_le_mul_right (by linarith) pos
    linarith
  have same : |j - i * 2 ^ k| < 1 := by exact_mod_cast close
  rw [Int.abs_lt_one_iff, sub_eq_zero] at same
  rw [same]

/-- **Sign**: no number changes its sign. -/
theorem nonneg_of_ofRat {q r : Rat} (is : (ofRat q).toRat? = some r) (nonneg : 0 ≤ q) : 0 ≤ r := by
  rw [ofRat, decide_eq_false (not_lt.2 (Rat.num_nonneg.2 nonneg))] at is
  exact nonneg_of_ofQuotient is

/-- An integer converts as the rational it is. -/
theorem ofInt_eq_ofRat (n : Int) : ofInt n = ofRat n := by
  rw [ofInt, ofRat, Rat.num_intCast, Rat.den_intCast]

/-- A whole number of at most 53 binary digits is not moved. -/
theorem eq_of_ofInt {n : Int} {r : Rat} (is : (ofInt n).toRat? = some r)
    (digits : |n| < Nat.pow 2 53) : r = n := by
  rw [ofInt_eq_ofRat] at is
  have same := eq_of_ofRat (i := n) (e := 0) (r := r) (by simpa using is) digits (by decide)
  simpa using same

/-! ## The whole part -/

/-- Cutting off a rational that is not negative rounds it down. -/
theorem tdiv_num_den {q : Rat} (nonneg : 0 ≤ q) : q.num.tdiv q.den = ⌊q⌋ := by
  rw [Int.tdiv_eq_ediv_of_nonneg (Rat.num_nonneg.2 nonneg), Rat.floor_def']

/-- Cutting off does not depend on the sign. -/
theorem tdiv_num_den_neg (q : Rat) : (-q).num.tdiv (-q).den = -q.num.tdiv q.den := by
  rw [Rat.num_neg_eq_neg_num, Rat.den_neg_eq_den, Int.neg_tdiv]

/-- The whole part of a number is less than one off, and not beyond it. -/
theorem abs_sub_tdiv_lt (q : Rat) :
    |q - (q.num.tdiv q.den : Int)| < 1 ∧ |((q.num.tdiv q.den : Int) : Rat)| ≤ |q| := by
  wlog nonneg : 0 ≤ q generalizing q
  · have opposite := this (-q) (by linarith)
    rwa [tdiv_num_den_neg, Int.cast_neg, neg_sub_neg, abs_sub_comm, abs_neg, abs_neg] at opposite
  rw [tdiv_num_den nonneg, abs_of_nonneg nonneg,
    abs_of_nonneg (Int.cast_nonneg (Int.floor_nonneg.2 nonneg))]
  refine ⟨?_, Int.floor_le q⟩
  rw [abs_of_nonneg (sub_nonneg.2 (Int.floor_le q))]
  linarith [Int.lt_floor_add_one q]

/-- A number above minus one has no negative whole part, and one below a whole number stays below
it. -/
theorem truncate_mem {x : Binary64} {n : Int} (positive : 0 < n)
    (inside : ∀ q, x.toRat? = some q → -1 < q ∧ q < n) : 0 ≤ x.truncate ∧ x.truncate < n := by
  unfold truncate
  split
  · next q is =>
    obtain ⟨low, high⟩ := inside q is
    rcases le_or_gt 0 q with nonneg | negative
    · rw [tdiv_num_den nonneg]
      exact ⟨Int.floor_nonneg.2 nonneg, Int.floor_lt.2 high⟩
    · have none : q.num.tdiv q.den = 0 := by
        have small := (abs_sub_tdiv_lt q).2
        rw [abs_of_neg negative] at small
        have small : |((q.num.tdiv q.den : Int) : Rat)| < 1 := by linarith
        rw [← Int.abs_lt_one_iff]
        exact_mod_cast small
      rw [none]
      exact ⟨le_rfl, positive⟩
  · exact ⟨le_rfl, positive⟩

/-- A finite number is a row of at most 53 binary digits in front of a power of two. -/
theorem exists_of_toRat? {x : Binary64} {q : Rat} (is : x.toRat? = some q) :
    ∃ i e : Int, q = i * 2 ^ e ∧ |i| < Nat.pow 2 53 ∧ -1074 ≤ e := by
  cases x with
  | nan => cases is
  | infinite negative => cases is
  | finite negative m e canonical =>
    have digits : (m : Int) < Nat.pow 2 53 := by exact_mod_cast canonical.1
    rw [toRat?, Option.some.injEq, scaled_eq] at is
    cases negative with
    | true =>
      refine ⟨-m, e, ?_, by rwa [abs_neg, Nat.abs_cast], canonical.2.1⟩
      rw [← is, if_pos rfl]
      push_cast
      ring
    | false =>
      refine ⟨m, e, ?_, by rwa [Nat.abs_cast], canonical.2.1⟩
      rw [← is, if_neg Bool.false_ne_true]
      push_cast
      rfl

/-- The whole part of a number of the format is one too. -/
theorem eq_of_ofInt_truncate {x : Binary64} {q r : Rat} (given : x.toRat? = some q)
    (is : (ofInt x.truncate).toRat? = some r) : r = x.truncate := by
  have part : x.truncate = q.num.tdiv q.den := by rw [truncate, given]
  obtain ⟨i, e, value, digits, least⟩ := exists_of_toRat? given
  rcases lt_or_ge e 0 with fractional | integral
  · refine eq_of_ofInt is ?_
    have power : (0 : Rat) < 2 ^ e := by positivity
    have size : ((|x.truncate| : Int) : Rat) < ((Nat.pow 2 53 : Nat) : Int) := by
      calc ((|x.truncate| : Int) : Rat) ≤ |q| := by
            rw [part, Int.cast_abs]
            exact (abs_sub_tdiv_lt q).2
        _ = (|i| : Int) * 2 ^ e := by
            rw [value, abs_mul, abs_of_pos power, Int.cast_abs]
        _ ≤ (|i| : Int) * 1 := by
            refine mul_le_mul_of_nonneg_left ?_ (Int.cast_nonneg (abs_nonneg i))
            exact zpow_le_one_of_nonpos₀ one_le_two fractional.le
        _ < ((Nat.pow 2 53 : Nat) : Int) := by
            rw [mul_one]
            exact Int.cast_lt.2 digits
    exact Int.cast_lt.1 size
  · obtain ⟨k, rfl⟩ := Int.eq_ofNat_of_zero_le integral
    have whole : q = (i * 2 ^ k : Int) := by
      rw [value, zpow_natCast]
      push_cast
      rfl
    have same : (x.truncate : Rat) = i * 2 ^ (k : Int) := by
      rw [part, whole, Rat.num_intCast, Rat.den_intCast, Nat.cast_one, Int.tdiv_one, ← whole, value]
    rw [ofInt_eq_ofRat, same] at is
    rw [same]
    exact eq_of_ofRat is digits least

/-! ## Operations -/

variable {x y : Binary64} {r : Rat}

/-- **Operations** round the result that the rationals give. -/
theorem toRat?_lift {f : Rat → Rat → Rat} (is : (lift f x y).toRat? = some r) :
    ∃ p q, x.toRat? = some p ∧ y.toRat? = some q ∧ (ofRat (f p q)).toRat? = some r := by
  unfold lift at is
  split at is
  · next p q left right => exact ⟨p, q, left, right, is⟩
  · cases is

/-- A quotient of finite numbers is the rounding of the exact quotient. -/
theorem toRat?_div (is : (x / y).toRat? = some r) :
    ∃ p q, x.toRat? = some p ∧ y.toRat? = some q ∧ (ofRat (p / q)).toRat? = some r := by
  change (div x y).toRat? = _ at is
  unfold div at is
  split at is
  · cases is
  · exact toRat?_lift is

/-- The order of finite numbers is that of their values. -/
theorem isLess_eq_true_iff :
    x.isLess y = true ↔ ∃ p q, x.toRat? = some p ∧ y.toRat? = some q ∧ p < q := by
  unfold isLess
  cases x.toRat? <;> cases y.toRat? <;> simp

/-- The same for the order with equality. -/
theorem isAtMost_eq_true_iff :
    x.isAtMost y = true ↔ ∃ p q, x.toRat? = some p ∧ y.toRat? = some q ∧ p ≤ q := by
  unfold isAtMost
  cases x.toRat? <;> cases y.toRat? <;> simp

end FilterScript.Binary64
