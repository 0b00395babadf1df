import FilterScript.Color.Literal
import FilterScript.Proofs.Number.Rounding

/-!
# Channels between zero and one

A share is a number between zero and one. Shares of hue, saturation and lightness or value make a color
whose channels are shares, and these come to bytes. Each operation rounds, so a share is one but for some
slack, which is far below what the rounding to a byte allows.

* **Products** (`IsShare.mul`, `IsShare.rest`): a part of a share, and what a share leaves of one.
* **Lightness** (`areShares_ofLightness`) and **value** (`areShares_ofValue`): the channels of a color.
* **Bytes** (`toByte_of_isShare`, `percentByte_of_le`): a share comes to a byte, and so does a percentage.
-/

namespace FilterScript.Color

open Binary64 (ofRat)

/-! ## Shares -/

/-- Whether a number, where it is one, lies between zero and one but for some slack. -/
def IsShare (slack : Rat) (x : Binary64) : Prop :=
  ∀ p, x.toRat? = some p → -slack ≤ p ∧ p ≤ 1 + slack

/-- By how much an operation on numbers of this size is off at most. -/
def slip : Rat :=
  1 / 1000000000

/-- The slip is small. -/
theorem slip_bounds : 0 ≤ slip ∧ slip ≤ 1 / 1000000 := by
  norm_num [slip]

/-- Rounding moves a small number by at most the slip. -/
theorem abs_sub_le_slip {q r : Rat} (is : (ofRat q).toRat? = some r) (small : |q| < 65536) :
    |r - q| ≤ slip := by
  have near := Binary64.abs_sub_le_of_ofRat (k := 15) is (by norm_num; exact small) (by norm_num)
  refine near.trans ?_
  norm_num [slip]

/-- Integers of up to 53 bits are exact. -/
theorem eq_of_whole {n : Int} {p : Rat} (is : (whole n).toRat? = some p)
    (digits : |n| < Nat.pow 2 53) : p = n :=
  Binary64.eq_of_ofInt is digits

/-- A quotient of two such integers is near the exact one. -/
theorem near_quotient {m n : Int} {p : Rat} (is : (whole m / whole n).toRat? = some p)
    (digits : |m| < Nat.pow 2 53) (digits' : |n| < Nat.pow 2 53) (small : |(m / n : Rat)| < 65536) :
    |p - m / n| ≤ slip := by
  obtain ⟨q, d, isNumber, isDivisor, quotient⟩ := Binary64.toRat?_div is
  rw [eq_of_whole isNumber digits, eq_of_whole isDivisor digits'] at quotient
  exact abs_sub_le_slip quotient small

/-- One half is exact. -/
theorem toRat?_half : half.toRat? = some (1 / 2) := by
  decide +kernel

section Shares

variable {a b : Rat} {x y : Binary64}

/-- A share within one margin is a share within every wider one. -/
theorem IsShare.mono (share : IsShare a x) (le : a ≤ b) : IsShare b x := by
  intro p is
  have := share p is
  constructor <;> linarith

/-- A part of a share is a share. -/
theorem IsShare.mul (left : IsShare a x) (right : IsShare b y) (small : 0 ≤ a ∧ a ≤ 1 / 4)
    (small' : 0 ≤ b ∧ b ≤ 1 / 4) : IsShare (2 * (a + b) + slip) (x * y) := by
  intro r is
  obtain ⟨p, q, isLeft, isRight, product⟩ := Binary64.toRat?_lift is
  have hp := left p isLeft
  have hq := right q isRight
  have overlap : a * b ≤ (a + b) / 8 := by nlinarith
  have low : -(2 * (a + b)) ≤ p * q := by
    nlinarith [mul_nonneg (by linarith : 0 ≤ p + a) (by linarith : 0 ≤ q + b)]
  have high : p * q ≤ 1 + 2 * (a + b) := by
    calc p * q ≤ |p| * |q| := by rw [← abs_mul]; exact le_abs_self _
      _ ≤ (1 + a) * (1 + b) :=
          mul_le_mul (abs_le.2 ⟨by linarith, hp.2⟩) (abs_le.2 ⟨by linarith, hq.2⟩)
            (abs_nonneg q) (by linarith)
      _ ≤ 1 + 2 * (a + b) := by linarith
  have near := abs_le.1 (abs_sub_le_slip product (abs_lt.2 ⟨by linarith, by linarith⟩))
  constructor <;> linarith

/-- What a share leaves of one is a share. -/
theorem IsShare.rest (share : IsShare a x) (small : 0 ≤ a ∧ a ≤ 1) :
    IsShare (a + slip) (whole 1 - x) := by
  intro r is
  obtain ⟨p, q, isOne, isShare, difference⟩ := Binary64.toRat?_lift is
  obtain rfl : p = 1 := by exact_mod_cast eq_of_whole isOne (by decide)
  have hq := share q isShare
  have near := abs_le.1 (abs_sub_le_slip difference (abs_lt.2 ⟨by linarith, by linarith⟩))
  constructor <;> linarith

end Shares

/-! ## Hue, saturation and lightness -/

/-- The part of a number behind the point is not negative, but for two roundings. -/
theorem nonneg_of_fraction {x : Binary64} {p : Rat} (is : x.fraction.toRat? = some p) :
    -(2 * slip) ≤ p := by
  have slips := slip_bounds
  unfold Binary64.fraction at is
  split at is
  · next q _ =>
    have cut := abs_lt.1 (Binary64.abs_sub_tdiv_lt q).1
    dsimp only at is
    split at is
    · obtain ⟨r, o, isRest, isOne, sum⟩ := Binary64.toRat?_lift is
      obtain rfl : o = 1 := by exact_mod_cast eq_of_whole isOne (by decide)
      have rest := abs_le.1 (abs_sub_le_slip isRest (abs_lt.2 ⟨by linarith, by linarith⟩))
      have sum := abs_le.1 (abs_sub_le_slip sum (abs_lt.2 ⟨by linarith, by linarith⟩))
      linarith
    · next nonneg =>
      have : ¬p < 0 := fun below =>
        nonneg (Binary64.isLess_eq_true_iff.2 ⟨p, 0, is, Binary64.toRat?_zero false, below⟩)
      linarith
  · cases is

/-- A number between two shares is a share. -/
theorem between_bounds {a c p q e : Rat} (isLow : -a ≤ p ∧ p ≤ 1 + a) (isHigh : -a ≤ q ∧ q ≤ 1 + a)
    (small : a ≤ 1 / 4) (tiny : 0 ≤ c) (part : -c ≤ e ∧ e ≤ 1 + c) :
    -(a + 3 * c) ≤ p + (q - p) * e ∧ p + (q - p) * e ≤ 1 + (a + 3 * c) := by
  have fromLow := mul_nonneg (by linarith : 0 ≤ 1 - e + c) (by linarith : 0 ≤ p + a)
  have fromHigh := mul_nonneg (by linarith : 0 ≤ e + c) (by linarith : 0 ≤ q + a)
  have toLow := mul_nonneg (by linarith : 0 ≤ 1 - e + c) (by linarith : 0 ≤ 1 + a - p)
  have toHigh := mul_nonneg (by linarith : 0 ≤ e + c) (by linarith : 0 ≤ 1 + a - q)
  have below := mul_nonneg tiny (by linarith : 0 ≤ 3 - (p + a) - (q + a))
  have above := mul_nonneg tiny (by linarith : 0 ≤ 3 - (1 + a - p) - (1 + a - q))
  constructor <;> linarith

/-- A channel between the low and the high level. -/
theorem isShare_between {a c : Rat} {low high t : Binary64} (isLow : IsShare a low)
    (isHigh : IsShare a high) (small : 0 ≤ a ∧ a ≤ 1 / 4) (tiny : 0 ≤ c ∧ c ≤ 1 / 4)
    (climb : ∀ p, t.toRat? = some p → -c ≤ p ∧ p ≤ 1 / 6 + c) :
    IsShare (a + 24 * c + 20 * slip) (low + (high - low) * t * whole 6) := by
  have slips := slip_bounds
  intro r is
  obtain ⟨p, w, lowIs, is, sum⟩ := Binary64.toRat?_lift is
  obtain ⟨v, n, is, isNumber, product⟩ := Binary64.toRat?_lift is
  obtain ⟨d, u, is, isTime, part⟩ := Binary64.toRat?_lift is
  obtain ⟨q, p', highIs, lowIs', difference⟩ := Binary64.toRat?_lift is
  obtain rfl : n = 6 := by exact_mod_cast eq_of_whole isNumber (by decide)
  obtain rfl : p = p' := Option.some.inj (lowIs.symm.trans lowIs')
  have hp := isLow p lowIs
  have hq := isHigh q highIs
  have hu := climb u isTime
  have difference := abs_sub_le_slip difference (abs_lt.2 ⟨by linarith, by linarith⟩)
  have time : |u| ≤ 1 := abs_le.2 ⟨by linarith, by linarith⟩
  have between := between_bounds hp hq small.2 (by linarith : 0 ≤ 6 * c) (e := 6 * u)
    ⟨by linarith, by linarith⟩
  have moved : |(d - (q - p)) * u| ≤ slip := by
    rw [abs_mul]
    exact (mul_le_of_le_one_right (abs_nonneg _) time).trans difference
  have moved := abs_le.1 moved
  have part := abs_le.1 (abs_sub_le_slip part (abs_lt.2 ⟨by linarith, by linarith⟩))
  have product := abs_le.1 (abs_sub_le_slip product (abs_lt.2 ⟨by linarith, by linarith⟩))
  have sum := abs_le.1 (abs_sub_le_slip sum (abs_lt.2 ⟨by linarith, by linarith⟩))
  constructor <;> linarith

/-- The constant for one sixth. -/
theorem near_sixth {p : Rat} (is : sixth.toRat? = some p) : |p - 1 / 6| ≤ slip := by
  have near := near_quotient is (by decide) (by decide) (by norm_num [abs_lt])
  simpa using near

/-- The constant for two thirds. -/
theorem near_twoThirds {p : Rat} (is : twoThirds.toRat? = some p) : |p - 2 / 3| ≤ slip := by
  have near := near_quotient is (by decide) (by decide) (by norm_num [abs_lt])
  simpa using near

/-- A channel between two shares is a share, with some slips added. -/
theorem isShare_channelAt {a : Rat} {low high : Binary64} (isLow : IsShare a low)
    (isHigh : IsShare a high) (small : 0 ≤ a ∧ a ≤ 1 / 4) (hue : Binary64) :
    IsShare (a + 100 * slip) (channelAt low high hue) := by
  have slips := slip_bounds
  have tiny : 0 ≤ 3 * slip ∧ 3 * slip ≤ 1 / 4 := ⟨by linarith, by linarith⟩
  have wider : a ≤ a + 100 * slip := by linarith
  unfold channelAt
  dsimp only
  split
  · next climbing =>
    obtain ⟨p, q, isHue, isSixth, less⟩ := Binary64.isLess_eq_true_iff.1 climbing
    refine (isShare_between isLow isHigh small tiny fun p' is => ?_).mono (by linarith)
    obtain rfl : p = p' := Option.some.inj (isHue.symm.trans is)
    have := abs_le.1 (near_sixth isSixth)
    have := nonneg_of_fraction isHue
    constructor <;> linarith
  · split
    · exact isHigh.mono wider
    · next past =>
      split
      · next falling =>
        obtain ⟨p, q, isHue, isTwoThirds, less⟩ := Binary64.isLess_eq_true_iff.1 falling
        refine (isShare_between isLow isHigh small tiny fun r is => ?_).mono (by linarith)
        obtain ⟨q', p', is, isHue', difference⟩ := Binary64.toRat?_lift is
        obtain rfl : p = p' := Option.some.inj (isHue.symm.trans isHue')
        obtain rfl : q = q' := Option.some.inj (isTwoThirds.symm.trans is)
        have near := abs_le.1 (near_twoThirds isTwoThirds)
        have reached : 1 / 2 ≤ p := not_lt.1 fun less =>
          past (Binary64.isLess_eq_true_iff.2 ⟨p, 1 / 2, isHue, toRat?_half, less⟩)
        have := abs_le.1 (abs_sub_le_slip difference (abs_lt.2 ⟨by linarith, by linarith⟩))
        constructor <;> linarith
      · exact isLow.mono wider

/-- The high level of a color of some lightness and saturation. -/
def highLevel (lightness saturation : Binary64) : Binary64 :=
  if lightness.isAtMost half then lightness * (whole 1 + saturation)
  else lightness + saturation - lightness * saturation

/-- The high level of a color, not rounded. -/
def exactHighLevel (p q : Rat) : Rat :=
  if p ≤ 1 / 2 then p * (1 + q) else p + q - p * q

/-- The high level is a share, and so is the low one, which lies as far below the lightness. -/
theorem exactHighLevel_bounds {a p q : Rat} (small : 0 ≤ a ∧ a ≤ 1 / 4)
    (isLightness : -a ≤ p ∧ p ≤ 1 + a) (isSaturation : -a ≤ q ∧ q ≤ 1 + a) :
    (-(4 * a) ≤ exactHighLevel p q ∧ exactHighLevel p q ≤ 1 + 4 * a) ∧
      -(4 * a) ≤ 2 * p - exactHighLevel p q ∧ 2 * p - exactHighLevel p q ≤ 1 + 4 * a := by
  have square : a * a ≤ a / 4 := by nlinarith
  have corner := mul_nonneg (by linarith : 0 ≤ p + a) (by linarith : 0 ≤ q + a)
  have opposite := mul_nonneg (by linarith : 0 ≤ p + a) (by linarith : 0 ≤ 1 + a - q)
  unfold exactHighLevel
  split
  · next dark =>
    have edge := mul_nonneg (by linarith : 0 ≤ 1 / 2 - p) (by linarith : 0 ≤ q + a)
    have edge' := mul_nonneg (by linarith : 0 ≤ 1 / 2 - p) (by linarith : 0 ≤ 1 + a - q)
    refine ⟨⟨?_, ?_⟩, ?_, ?_⟩ <;> nlinarith
  · next light =>
    have edge := mul_nonneg (by linarith : 0 ≤ p - 1 / 2) (by linarith : 0 ≤ 1 + a - q)
    have edge' := mul_nonneg (by linarith : 0 ≤ 1 + a - p) (by linarith : 0 ≤ 1 + a - q)
    have edge'' := mul_nonneg (by linarith : 0 ≤ 1 + a - p) (by linarith : 0 ≤ q + a)
    refine ⟨⟨?_, ?_⟩, ?_, ?_⟩ <;> nlinarith

/-- The high level is rounded three times at most. -/
theorem near_highLevel {a r : Rat} {lightness saturation : Binary64} (small : 0 ≤ a ∧ a ≤ 1 / 4)
    (isLightness : IsShare a lightness) (isSaturation : IsShare a saturation)
    (is : (highLevel lightness saturation).toRat? = some r) :
    ∃ p q, lightness.toRat? = some p ∧ saturation.toRat? = some q ∧
      |r - exactHighLevel p q| ≤ 4 * slip := by
  have slips := slip_bounds
  unfold highLevel at is
  split at is
  · next dark =>
    obtain ⟨p, half', lightnessIs, halfIs, le⟩ := Binary64.isAtMost_eq_true_iff.1 dark
    obtain rfl : 1 / 2 = half' := Option.some.inj (toRat?_half.symm.trans halfIs)
    obtain ⟨p', t, lightnessIs', is, product⟩ := Binary64.toRat?_lift is
    obtain rfl : p = p' := Option.some.inj (lightnessIs.symm.trans lightnessIs')
    obtain ⟨o, q, isOne, saturationIs, sum⟩ := Binary64.toRat?_lift is
    obtain rfl : o = 1 := by exact_mod_cast eq_of_whole isOne (by decide)
    refine ⟨p, q, lightnessIs, saturationIs, ?_⟩
    have hp := isLightness p lightnessIs
    have hq := isSaturation q saturationIs
    have sum := abs_sub_le_slip sum (abs_lt.2 ⟨by linarith, by linarith⟩)
    have moved : |p * (t - (1 + q))| ≤ slip := by
      rw [abs_mul]
      exact (mul_le_of_le_one_left (abs_nonneg _) (abs_le.2 ⟨by linarith, by linarith⟩)).trans sum
    have bounds := exactHighLevel_bounds small hp hq
    rw [exactHighLevel, if_pos le] at bounds ⊢
    have moved := abs_le.1 moved
    have product := abs_le.1 (abs_sub_le_slip product (abs_lt.2 ⟨by linarith, by linarith⟩))
    rw [abs_le]
    constructor <;> linarith
  · next light =>
    obtain ⟨t, v, isSum, isProduct, difference⟩ := Binary64.toRat?_lift is
    obtain ⟨p, q, lightnessIs, saturationIs, sum⟩ := Binary64.toRat?_lift isSum
    obtain ⟨p', q', lightnessIs', saturationIs', product⟩ := Binary64.toRat?_lift isProduct
    obtain rfl : p = p' := Option.some.inj (lightnessIs.symm.trans lightnessIs')
    obtain rfl : q = q' := Option.some.inj (saturationIs.symm.trans saturationIs')
    refine ⟨p, q, lightnessIs, saturationIs, ?_⟩
    have hp := isLightness p lightnessIs
    have hq := isSaturation q saturationIs
    have above : ¬p ≤ 1 / 2 := fun le =>
      light (Binary64.isAtMost_eq_true_iff.2 ⟨p, 1 / 2, lightnessIs, toRat?_half, le⟩)
    have bounds := exactHighLevel_bounds small hp hq
    rw [exactHighLevel, if_neg above] at bounds ⊢
    have sum := abs_le.1 (abs_sub_le_slip sum (abs_lt.2 ⟨by linarith, by linarith⟩))
    have product := abs_le.1 (abs_sub_le_slip product (abs_lt.2 ⟨by linarith, by linarith⟩))
    have difference := abs_le.1 (abs_sub_le_slip difference (abs_lt.2 ⟨by linarith, by linarith⟩))
    rw [abs_le]
    constructor <;> linarith

/-- The higher level is a share, with the margins of lightness and saturation. -/
theorem isShare_highLevel {a : Rat} {lightness saturation : Binary64} (small : 0 ≤ a ∧ a ≤ 1 / 4)
    (isLightness : IsShare a lightness) (isSaturation : IsShare a saturation) :
    IsShare (4 * a + 4 * slip) (highLevel lightness saturation) := by
  intro r is
  obtain ⟨p, q, lightnessIs, saturationIs, near⟩ := near_highLevel small isLightness isSaturation is
  have bounds :=
    (exactHighLevel_bounds small (isLightness p lightnessIs) (isSaturation q saturationIs)).1
  have near := abs_le.1 near
  constructor <;> linarith

/-- So is the lower one. -/
theorem isShare_lowLevel {a : Rat} {lightness saturation : Binary64} (small : 0 ≤ a ∧ a ≤ 1 / 4)
    (isLightness : IsShare a lightness) (isSaturation : IsShare a saturation) :
    IsShare (4 * a + 6 * slip) (whole 2 * lightness - highLevel lightness saturation) := by
  have slips := slip_bounds
  intro r is
  obtain ⟨t, h, isTwice, isHigh, difference⟩ := Binary64.toRat?_lift is
  obtain ⟨o, p, isTwo, lightnessIs, product⟩ := Binary64.toRat?_lift isTwice
  obtain rfl : o = 2 := by exact_mod_cast eq_of_whole isTwo (by decide)
  obtain ⟨p', q, lightnessIs', saturationIs, near⟩ :=
    near_highLevel small isLightness isSaturation isHigh
  obtain rfl : p = p' := Option.some.inj (lightnessIs.symm.trans lightnessIs')
  have hp := isLightness p lightnessIs
  have bounds := (exactHighLevel_bounds small hp (isSaturation q saturationIs)).2
  have near := abs_le.1 near
  have product := abs_le.1 (abs_sub_le_slip product (abs_lt.2 ⟨by linarith, by linarith⟩))
  have difference := abs_le.1 (abs_sub_le_slip difference (abs_lt.2 ⟨by linarith, by linarith⟩))
  constructor <;> linarith

/-- Whether the channels are shares. -/
structure Channels.AreShares (slack : Rat) (c : Channels) : Prop where
  red : IsShare slack c.red
  green : IsShare slack c.green
  blue : IsShare slack c.blue

/-- **Lightness**: at shares of lightness and saturation each channel is a share, whatever the hue.
-/
theorem areShares_ofLightness {lightness saturation : Binary64} (isLightness : IsShare slip lightness)
    (isSaturation : IsShare slip saturation) (hue : Binary64) :
    (ofLightness hue lightness saturation).AreShares (1 / 1000) := by
  have slips := slip_bounds
  have small : 0 ≤ slip ∧ slip ≤ 1 / 4 := ⟨by linarith, by linarith⟩
  unfold ofLightness
  split
  · have grey : IsShare (1 / 1000) lightness := isLightness.mono (by linarith)
    exact ⟨grey, grey, grey⟩
  · have high := (isShare_highLevel small isLightness isSaturation).mono
      (by linarith : 4 * slip + 4 * slip ≤ 10 * slip)
    have low := (isShare_lowLevel small isLightness isSaturation).mono
      (by linarith : 4 * slip + 6 * slip ≤ 10 * slip)
    have channel := fun hue =>
      (isShare_channelAt low high ⟨by linarith, by linarith⟩ hue).mono
        (by linarith : 10 * slip + 100 * slip ≤ 1 / 1000)
    exact ⟨channel _, channel _, channel _⟩

/-! ## Hue, saturation and value -/

/-- How far a hue has come in its part of the circle is a share. -/
theorem isShare_turn {turn : Binary64} (nonneg : ∀ p, turn.toRat? = some p → 0 ≤ p) :
    IsShare slip (turn - whole turn.truncate) := by
  intro r is
  obtain ⟨p, w, turnIs, isPart, difference⟩ := Binary64.toRat?_lift is
  have nonneg := nonneg p turnIs
  have part : w = ⌊p⌋ := by
    rw [Binary64.eq_of_ofInt_truncate turnIs isPart, Binary64.truncate, turnIs]
    exact congrArg Int.cast (Binary64.tdiv_num_den nonneg)
  have low := Int.floor_le p
  have high := Int.lt_floor_add_one p
  rw [part] at difference
  have near := abs_le.1 (abs_sub_le_slip difference (abs_lt.2 ⟨by linarith, by linarith⟩))
  constructor <;> linarith

/-- A value without a part of the saturation is a share. -/
theorem isShare_without {a : Rat} {saturation value part : Binary64} (isValue : IsShare slip value)
    (isSaturation : IsShare slip saturation) (small : 0 ≤ a ∧ a ≤ 2 * slip)
    (isPart : IsShare a part) : IsShare (1 / 1000) (value * (whole 1 - saturation * part)) := by
  have slips := slip_bounds
  have product := isSaturation.mul isPart ⟨by linarith, by linarith⟩ ⟨by linarith, by linarith⟩
  have rest := product.rest ⟨by linarith, by linarith⟩
  exact (isValue.mul rest ⟨by linarith, by linarith⟩ ⟨by linarith, by linarith⟩).mono (by linarith)

/-- **Value**: at shares of saturation and value each channel is a share, at any hue in front of
zero. -/
theorem areShares_ofValue {hue saturation value : Binary64}
    (nonneg : ∀ p, hue.toRat? = some p → 0 ≤ p) (isSaturation : IsShare slip saturation)
    (isValue : IsShare slip value) : (ofValue hue saturation value).AreShares (1 / 1000) := by
  have slips := slip_bounds
  have valueShare : IsShare (1 / 1000) value := isValue.mono (by linarith)
  unfold ofValue
  split
  · exact ⟨valueShare, valueShare, valueShare⟩
  · have turned : IsShare slip (hue * whole 6 - whole (hue * whole 6).truncate) := by
      refine isShare_turn fun p is => ?_
      obtain ⟨q, n, hueIs, isSix, product⟩ := Binary64.toRat?_lift is
      obtain rfl : n = 6 := by exact_mod_cast eq_of_whole isSix (by decide)
      exact Binary64.nonneg_of_ofRat product (by linarith [nonneg q hueIs])
    have low : IsShare (1 / 1000) (value * (whole 1 - saturation)) := by
      have rest := isSaturation.rest ⟨by linarith, by linarith⟩
      exact (isValue.mul rest ⟨by linarith, by linarith⟩ ⟨by linarith, by linarith⟩).mono
        (by linarith)
    have falling := isShare_without isValue isSaturation ⟨by linarith, by linarith⟩ turned
    have climbing := isShare_without isValue isSaturation ⟨by linarith, by linarith⟩
      (turned.rest ⟨by linarith, by linarith⟩)
    dsimp only
    split
    · exact ⟨valueShare, climbing, low⟩
    · exact ⟨falling, valueShare, low⟩
    · exact ⟨low, valueShare, climbing⟩
    · exact ⟨low, falling, valueShare⟩
    · exact ⟨climbing, low, valueShare⟩
    · exact ⟨valueShare, low, falling⟩

/-! ## Bytes -/

/-- **Bytes**: a share comes to a byte. -/
theorem toByte_of_isShare {x : Binary64} (share : IsShare (1 / 1000) x) :
    0 ≤ toByte x ∧ toByte x < 256 := by
  refine Binary64.truncate_mem (by decide) fun y is => ?_
  obtain ⟨z, h, product, isHalf, sum⟩ := Binary64.toRat?_lift is
  obtain ⟨p, n, isShare, isNumber, product⟩ := Binary64.toRat?_lift product
  obtain rfl : n = 255 := by exact_mod_cast eq_of_whole isNumber (by decide)
  obtain rfl : 1 / 2 = h := Option.some.inj (toRat?_half.symm.trans isHalf)
  have hp := share p isShare
  have slips := slip_bounds
  have product := abs_le.1 (abs_sub_le_slip product (abs_lt.2 ⟨by linarith, by linarith⟩))
  have sum := abs_le.1 (abs_sub_le_slip sum (abs_lt.2 ⟨by linarith, by linarith⟩))
  constructor
  · linarith
  · push_cast
    linarith

/-- A percentage comes to a byte. -/
theorem percentByte_of_le {n : Nat} (le : n ≤ 100) : 0 ≤ percentByte n ∧ percentByte n < 256 := by
  refine Binary64.truncate_mem (by decide) fun y is => ?_
  obtain ⟨z, h, quotient, isHalf, sum⟩ := Binary64.toRat?_lift is
  obtain ⟨p, q, isLevel, isNumber, quotient⟩ := Binary64.toRat?_div quotient
  obtain rfl : q = 100 := by exact_mod_cast eq_of_whole isNumber (by decide)
  obtain rfl : 1 / 2 = h := Option.some.inj (toRat?_half.symm.trans isHalf)
  have level : p = n * 255 := by
    have digits : |(n * 255 : Int)| < Nat.pow 2 53 := by
      have limit : ((Nat.pow 2 53 : Nat) : Int) = 9007199254740992 := rfl
      rw [limit, abs_lt]
      omega
    exact_mod_cast eq_of_whole isLevel digits
  have le : (n : Rat) ≤ 100 := by exact_mod_cast le
  have nonneg : (0 : Rat) ≤ n := Nat.cast_nonneg n
  have slips := slip_bounds
  have quotient := abs_le.1 (abs_sub_le_slip quotient (abs_lt.2 ⟨by linarith, by linarith⟩))
  have sum := abs_le.1 (abs_sub_le_slip sum (abs_lt.2 ⟨by linarith, by linarith⟩))
  constructor
  · linarith
  · push_cast
    linarith

end FilterScript.Color
