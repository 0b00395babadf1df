import FilterScript.Number.Decimal

/-!
# Binary numbers of 64 bits

Fractional numbers are those of the binary format with 53 digits. A finite one is its sign, a
mantissa and a power of two, kept in the one form that the format has for it, so that equal fields
mean equal numbers (and the two zeros stay apart). Rounding goes to the nearest number of the
format, a tie to the even mantissa; arithmetic is that of the rationals, rounded once.
-/

namespace FilterScript

namespace Binary64

/-- Whether `mantissa · 2 ^ exponent` is the form that the format keeps: the mantissa fills its 53
digits unless the exponent is the least there is. -/
def Canonical (mantissa : Nat) (exponent : Int) : Prop :=
  mantissa < Nat.pow 2 53 ∧ -1074 ≤ exponent ∧ exponent ≤ 971 ∧
    (Nat.pow 2 52 ≤ mantissa ∨ exponent = -1074)

instance (mantissa : Nat) (exponent : Int) : Decidable (Canonical mantissa exponent) := by
  unfold Canonical; infer_instance

end Binary64

/-- A number of the binary format. -/
inductive Binary64 where
  /-- No number. -/
  | nan
  /-- Infinity, of either sign. -/
  | infinite (negative : Bool)
  /-- The number `± mantissa · 2 ^ exponent`. -/
  | finite (negative : Bool) (mantissa : Nat) (exponent : Int)
      (canonical : Binary64.Canonical mantissa exponent)
deriving DecidableEq

namespace Binary64

/-! ## The number denoted -/

/-- The rational `mantissa · 2 ^ exponent`. -/
def scaled (mantissa : Nat) (exponent : Int) : Rat :=
  match exponent with
  | .ofNat k => mkRat (mantissa * Nat.pow 2 k : Nat) 1
  | .negSucc k => mkRat mantissa (Nat.pow 2 (k + 1))

/-- The rational number denoted by a finite number. -/
def toRat? : Binary64 → Option Rat
  | finite negative m e _ => some (if negative then -scaled m e else scaled m e)
  | _ => none

/-- Zero, of either sign. -/
def zero (negative : Bool) : Binary64 :=
  finite negative 0 (-1074) (by decide)

/-- Whether a number is zero. -/
def isZero : Binary64 → Bool
  | finite _ m _ _ => m == 0
  | _ => false

/-- Whether a number is not a number. -/
def isNan : Binary64 → Bool
  | nan => true
  | _ => false

/-- Whether a number is neither infinite nor no number. -/
def isFinite : Binary64 → Bool
  | finite .. => true
  | _ => false

/-- The whole number that a finite number is, if it is one. -/
def toInt? : Binary64 → Option Int
  | finite negative m (.ofNat k) _ => some (Numeral.signed negative (m * Nat.pow 2 k))
  | finite negative m (.negSucc k) _ =>
    let unit := Nat.pow 2 (k + 1)
    if m % unit = 0 then some (Numeral.signed negative (m / unit)) else none
  | _ => none

/-- A whole number of the format has at most 1024 binary digits. -/
theorem natAbs_lt_of_toInt? {x : Binary64} {n : Int} (whole : x.toInt? = some n) :
    ∃ k ≤ 1024, n.natAbs < Nat.pow 2 k := by
  cases x with
  | nan => cases whole
  | infinite negative => cases whole
  | finite negative m e canonical =>
    have ⟨small, _, top, _⟩ := canonical
    cases e with
    | ofNat k =>
      obtain rfl := Option.some.inj whole
      have few : k ≤ 971 := Int.ofNat_le.1 top
      refine ⟨53 + k, by omega, ?_⟩
      rw [Numeral.natAbs_signed, Nat.pow_eq, Nat.pow_eq, Nat.pow_add]
      exact Nat.mul_lt_mul_of_pos_right small (Nat.two_pow_pos k)
    | negSucc k =>
      simp only [toInt?] at whole
      split at whole
      · obtain rfl := Option.some.inj whole
        refine ⟨53, by decide, ?_⟩
        rw [Numeral.natAbs_signed]
        exact Nat.lt_of_le_of_lt (Nat.div_le_self _ _) small
      · cases whole

/-- A whole number of the format does not have too many digits to be written. -/
theorem isWritable_of_toInt? {x : Binary64} {n : Int} (whole : x.toInt? = some n) :
    Numeral.isWritable n = true := by
  obtain ⟨k, few, small⟩ := natAbs_lt_of_toInt? whole
  have fewer : k ≤ Numeral.mostDigits := Nat.le_trans few (by decide)
  have mono : ∀ {i j : Nat}, i ≤ j → Nat.pow 10 i ≤ Nat.pow 10 j := Nat.pow_le_pow_right (by decide)
  rw [Numeral.isWritable_iff]
  calc n.natAbs < Nat.pow 2 k := small
    _ ≤ Nat.pow 10 k := Nat.pow_le_pow_left (by decide) k
    _ ≤ Nat.pow 10 Numeral.mostDigits := mono fewer

/-! ## Rounding -/

/-- The quotient of two natural numbers rounded to a whole one, a half to the even neighbour. -/
def roundQuotient (n d : Nat) : Nat :=
  let q := n / d
  let twice := 2 * (n % d)
  if twice < d then q else if d < twice then q + 1 else if q % 2 = 0 then q else q + 1

/-- The largest `k` with `2 ^ k ≤ n / d`, for positive `n` and `d`. -/
def binaryExponent (n d : Nat) : Int :=
  let k : Int := (Nat.log2 n : Int) - Nat.log2 d
  let reached : Bool := match k with
    | .ofNat j => decide (d * Nat.pow 2 j ≤ n)
    | .negSucc j => decide (d ≤ n * Nat.pow 2 (j + 1))
  if reached then k else k - 1

/-- The quotient of `n` and `d` divided by a power of two, rounded to a whole number. -/
def roundAt (n d : Nat) (exponent : Int) : Nat :=
  match exponent with
  | .ofNat k => roundQuotient n (d * Nat.pow 2 k)
  | .negSucc k => roundQuotient (n * Nat.pow 2 (k + 1)) d

/-- The finite number with the given fields, or infinity where they are no canonical form. -/
def ofFields (negative : Bool) (mantissa : Nat) (exponent : Int) : Binary64 :=
  if h : Canonical mantissa exponent then finite negative mantissa exponent h
  else infinite negative

/-- The number of the format nearest to `± n / d`. A mantissa that rounding carries to 54 digits
moves to the next power of two. -/
def ofQuotient (negative : Bool) (n d : Nat) : Binary64 :=
  if n = 0 ∨ d = 0 then zero negative
  else
    let exponent := max (binaryExponent n d - 52) (-1074)
    let mantissa := roundAt n d exponent
    if mantissa = Nat.pow 2 53 then ofFields negative (Nat.pow 2 52) (exponent + 1)
    else ofFields negative mantissa exponent

/-- The number of the format nearest to a rational number. -/
def ofRat (q : Rat) : Binary64 :=
  ofQuotient (q.num < 0) q.num.natAbs q.den

/-- The number of the format nearest to a rational number, if that is not out of its range. -/
def ofRat? (q : Rat) : Option Binary64 :=
  match ofRat q with
  | infinite _ => none
  | x => some x

/-- The number of the format nearest to a whole number. -/
def ofInt (n : Int) : Binary64 :=
  ofQuotient (n < 0) n.natAbs 1

/-- The number of the format nearest to a decimal number. Exponents far outside the format are
settled without computing the power. -/
def ofDecimal (d : Decimal) : Binary64 :=
  if d.coefficient = 0 then zero d.negative
  else if 400 < d.leadingExponent then infinite d.negative
  else if d.leadingExponent < -400 then zero d.negative
  else
    match d.exponent with
    | .ofNat k => ofQuotient d.negative (d.coefficient * Nat.pow 10 k) 1
    | .negSucc k => ofQuotient d.negative d.coefficient (Nat.pow 10 (k + 1))

/-! ## Arithmetic -/

/-- The opposite number. -/
def neg : Binary64 → Binary64
  | nan => nan
  | infinite negative => infinite !negative
  | finite negative m e h => finite (!negative) m e h

/-- An operation on the rationals, rounded once. Operands that are not finite give no number. -/
def lift (f : Rat → Rat → Rat) (x y : Binary64) : Binary64 :=
  match x.toRat?, y.toRat? with
  | some p, some q => ofRat (f p q)
  | _, _ => nan

/-- The rounded sum. -/
def add : Binary64 → Binary64 → Binary64 := lift (· + ·)

/-- The rounded difference. -/
def sub : Binary64 → Binary64 → Binary64 := lift (· - ·)

/-- The rounded product. -/
def mul : Binary64 → Binary64 → Binary64 := lift (· * ·)

/-- The rounded quotient; division by zero gives no number. -/
def div (x y : Binary64) : Binary64 :=
  if y.isZero then nan else lift (· / ·) x y

instance : Add Binary64 := ⟨add⟩
instance : Sub Binary64 := ⟨sub⟩
instance : Mul Binary64 := ⟨mul⟩
instance : Div Binary64 := ⟨div⟩
instance : Neg Binary64 := ⟨neg⟩

/-- Whether one finite number is below another. -/
def isLess (x y : Binary64) : Bool :=
  match x.toRat?, y.toRat? with
  | some p, some q => p < q
  | _, _ => false

/-- Whether one finite number is at most another. -/
def isAtMost (x y : Binary64) : Bool :=
  match x.toRat?, y.toRat? with
  | some p, some q => p ≤ q
  | _, _ => false

/-- The whole number in front of the point, whatever stands behind it. -/
def truncate (x : Binary64) : Int :=
  match x.toRat? with
  | some q => q.num.tdiv q.den
  | none => 0

/-- The part of a number behind the point, counted from the whole number below. -/
def fraction (x : Binary64) : Binary64 :=
  match x.toRat? with
  | some q =>
    let rest := ofRat (q - ((q.num.tdiv q.den : Int) : Rat))
    if rest.isLess (zero false) then rest + ofInt 1 else rest
  | none => nan

end Binary64

end FilterScript
