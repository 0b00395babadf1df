import FilterScript.Number.Decimal
import Mathlib.Algebra.Order.Field.Rat
import Mathlib.Tactic.NormNum

/-!
# Numerals

What numbers are written as, apart from how the digits are found. A row of digits stands for one number,
whatever zeros are put around it, so a numeral can be taken apart again.

* **Whole numbers** (`Numeral.isCanonical_integer`): the numeral of a whole number is its sign and its
  digits, without a zero in front.
* **Positional notation** (`Decimal.exists_isNumeral_plain`): a decimal number is written for scripts with
  digits, a point among them or not, and no exponent, and the digits stand for the number.
-/

namespace FilterScript

namespace Numeral

/-! ## Rows of digits -/

/-- Whether characters are one or more decimal digits. -/
def IsRow (cs : List Char) : Prop :=
  cs ≠ [] ∧ ∀ c ∈ cs, c.isDigit = true

/-- The number that a row of decimal digits stands for. -/
def rowValue (cs : List Char) : Nat :=
  Nat.ofDigitChars 10 cs 0

/-- The digits of a number make a row. -/
theorem isRow_digits (n : Nat) : IsRow (digits n) :=
  ⟨Nat.toDigits_ne_nil, fun _ => Nat.isDigit_of_mem_toDigits (by decide) (by decide)⟩

/-- A row of digits has the number as its value. -/
theorem rowValue_digits (n : Nat) : rowValue (digits n) = n :=
  ofDigitChars_digits n

/-- Padding zeros are digits. -/
theorem isDigit_of_mem_replicate {k : Nat} {c : Char} (h : c ∈ List.replicate k '0') :
    c.isDigit = true := by
  rw [List.eq_of_mem_replicate h]
  rfl

/-- A row stays one with zeros behind it. -/
theorem IsRow.append_zeros {cs : List Char} (row : IsRow cs) (k : Nat) :
    IsRow (cs ++ List.replicate k '0') := by
  refine ⟨by simp [row.1], ?_⟩
  intro c hc
  rcases List.mem_append.1 hc with front | zero
  · exact row.2 c front
  · exact isDigit_of_mem_replicate zero

/-- A zero behind a row counts as a power of ten. -/
theorem rowValue_append_zeros (cs : List Char) (k : Nat) :
    rowValue (cs ++ List.replicate k '0') = rowValue cs * 10 ^ k := by
  rw [rowValue, Nat.ofDigitChars_append, Nat.ofDigitChars_replicate_zero, Nat.mul_comm]
  rfl

/-- A zero in front of a row does not count. -/
theorem rowValue_zeros_append (cs : List Char) (k : Nat) :
    rowValue (List.replicate k '0' ++ cs) = rowValue cs := by
  rw [rowValue, Nat.ofDigitChars_append, Nat.ofDigitChars_replicate_zero, Nat.mul_zero]
  rfl

/-! ## Whole numbers -/

/-- A sign for numbers that have one. -/
def signOf (negative : Bool) : List Char :=
  if negative then ['-'] else []

/-- Whether characters are the numeral of a whole number: its digits without a zero in front, behind
a minus sign if the number is negative. -/
inductive IsCanonical (n : Int) : List Char → Prop
  | intro {row : List Char} (digits : IsRow row) (value : rowValue row = n.natAbs)
    (leading : row.head? = some '0' → row = ['0']) : IsCanonical n (signOf (n < 0) ++ row)

/-- The numeral of a number without a sign is a row that stands for it. -/
theorem IsCanonical.rowValue_of_nonneg {n : Int} {cs : List Char} (canonical : IsCanonical n cs)
    (nonneg : 0 ≤ n) : rowValue cs = n.natAbs := by
  cases canonical with
  | intro digits value leading =>
    have noSign : signOf (n < 0) = [] := by simp [signOf, nonneg]
    rw [noSign]
    exact value

/-- The only numeral with a zero in front is that of zero. -/
theorem eq_zero_of_head?_digits {n : Nat} (zero : (digits n).head? = some '0') :
    digits n = ['0'] := by
  induction n using Nat.strongRecOn with
  | ind n ih =>
    rw [digits, Nat.toDigits_eq_if (by decide)] at zero ⊢
    split at zero
    · next small =>
      rw [if_pos small]
      simpa using zero
    · next large =>
      -- the digits in front of the last one are those of a smaller number, which is not zero
      have front : (digits (n / 10)).head? = some '0' := by
        obtain ⟨c, more, here⟩ := List.exists_cons_of_ne_nil (Nat.toDigits_ne_nil (n := n / 10) (b := 10))
        rw [here] at zero
        rw [digits, here]
        exact zero
      have none := congrArg rowValue (ih (n / 10) (by omega) front)
      rw [rowValue_digits] at none
      have : rowValue ['0'] = 0 := rfl
      omega

/-- **Whole numbers** are written as their sign and their digits. -/
theorem isCanonical_integer (n : Int) : IsCanonical n (integer n) := by
  have written : integer n = signOf (n < 0) ++ digits n.natAbs := by
    cases n with
    | ofNat n => simp [integer, signOf]
    | negSucc n => simp [integer, signOf, Int.negSucc_lt_zero]
  rw [written]
  exact .intro (isRow_digits _) (rowValue_digits _) eq_zero_of_head?_digits

end Numeral

namespace Decimal

open Numeral (IsRow rowValue signOf)

/-! ## Positional notation -/

/-- Whether characters are a numeral of a decimal number in positional notation: a minus sign if the
number has one, digits, and a point with digits behind it if the last one counts less than one. -/
inductive IsNumeral : Decimal → List Char → Prop
  | whole (negative : Bool) {row : List Char} (digits : IsRow row) :
    IsNumeral ⟨negative, rowValue row, 0⟩ (signOf negative ++ row)
  | fraction (negative : Bool) {front back : List Char} (left : IsRow front)
      (right : IsRow back) :
    IsNumeral ⟨negative, rowValue (front ++ back), -(back.length : Int)⟩
      (signOf negative ++ front ++ '.' :: back)

/-- Numerals hold digits, signs and points. -/
theorem IsNumeral.isDigit_or_mem {d : Decimal} {cs : List Char} (numeral : d.IsNumeral cs) :
    ∀ c ∈ cs, c.isDigit = true ∨ c = '-' ∨ c = '.' := by
  have signed {negative : Bool} : ∀ c ∈ signOf negative, c = '-' := by
    cases negative <;> simp [signOf]
  intro c hc
  cases numeral with
  | whole negative digits =>
    rcases List.mem_append.1 hc with sign | digit
    · exact .inr (.inl (signed c sign))
    · exact .inl (digits.2 c digit)
  | fraction negative left right =>
    rcases List.mem_append.1 hc with front | back
    · rcases List.mem_append.1 front with sign | digit
      · exact .inr (.inl (signed c sign))
      · exact .inl (left.2 c digit)
    · rcases List.mem_cons.1 back with point | digit
      · exact .inr (.inr point)
      · exact .inl (right.2 c digit)

/-- The numeral of a whole number is one in positional notation. -/
theorem isNumeral_of_isCanonical {n : Int} {cs : List Char} (canonical : Numeral.IsCanonical n cs) :
    IsNumeral ⟨n < 0, n.natAbs, 0⟩ cs := by
  obtain ⟨digits, value, -⟩ := canonical
  rw [← value]
  exact .whole _ digits

/-- The decimal of an integer has that integer as its value. -/
theorem toRat_natAbs (n : Int) : toRat ⟨n < 0, n.natAbs, 0⟩ = n := by
  have size : magnitude ⟨n < 0, n.natAbs, 0⟩ = (n.natAbs : Rat) := by
    show mkRat (n.natAbs * 1 : Nat) 1 = _
    rw [Rat.mkRat_one, Nat.mul_one]
    rfl
  rw [toRat, size]
  by_cases negative : n < 0
  · rw [if_pos (decide_eq_true negative)]
    have same : n = -(n.natAbs : Int) := by omega
    conv_rhs => rw [same]
    simp
  · rw [if_neg (by simpa using negative)]
    have same : n = (n.natAbs : Int) := by omega
    conv_rhs => rw [same]
    simp

/-- The digits of a row on both sides of a point behind all but the last ones. -/
theorem withPoint_eq {digits : List Char} (row : IsRow digits) (places : Nat) :
    ∃ front back, IsRow front ∧ back.length = places + 1 ∧ IsRow back ∧
      rowValue (front ++ back) = rowValue digits ∧
      withPoint digits (places + 1) = front ++ '.' :: back := by
  unfold withPoint
  dsimp only
  generalize filled : List.replicate (places + 1 + 1 - digits.length) '0' ++ digits = all
  have long : places + 2 ≤ all.length := by
    rw [← filled, List.length_append, List.length_replicate]
    omega
  have digit : ∀ c ∈ all, c.isDigit = true := by
    intro c hc
    rw [← filled] at hc
    rcases List.mem_append.1 hc with zero | inside
    · exact Numeral.isDigit_of_mem_replicate zero
    · exact row.2 c inside
  have behind : (all.drop (all.length - (places + 1))).length = places + 1 := by
    rw [List.length_drop]
    omega
  refine ⟨all.take (all.length - (places + 1)), all.drop (all.length - (places + 1)), ⟨?_, ?_⟩,
    behind, ⟨?_, ?_⟩, ?_, rfl⟩
  · rw [ne_eq, ← List.length_eq_zero_iff, List.length_take]
    omega
  · exact fun c hc => digit c (List.mem_of_mem_take hc)
  · rw [ne_eq, ← List.length_eq_zero_iff, behind]
    omega
  · exact fun c hc => digit c (List.mem_of_mem_drop hc)
  · rw [List.take_append_drop, ← filled, Numeral.rowValue_zeros_append]

/-- **Positional notation**: a decimal number is written for scripts without an exponent. Zeros at
the end may be more than it has by itself. -/
theorem exists_isNumeral_plain (d : Decimal) :
    ∃ k : Nat, IsNumeral ⟨d.negative, d.coefficient * 10 ^ k, d.exponent - k⟩ d.plain.toList := by
  obtain ⟨negative, coefficient, exponent⟩ := d
  have row := Numeral.isRow_digits coefficient
  have value := Numeral.rowValue_digits coefficient
  rw [plain, String.toList_ofList, show sign ⟨negative, coefficient, exponent⟩ = signOf negative from rfl]
  dsimp only
  cases exponent with
  | negSucc k =>
    -- the notation has a point in any case
    have written : (if takesExponent ⟨negative, coefficient, .negSucc k⟩ then
        positional ⟨negative, coefficient, .negSucc k⟩
        else positionalWithPoint ⟨negative, coefficient, .negSucc k⟩) =
          withPoint (Numeral.digits coefficient) (k + 1) := by
      rw [positionalWithPoint, if_pos (Int.negSucc_lt_zero k), ite_self]
      rfl
    obtain ⟨front, back, left, places, right, same, point⟩ := withPoint_eq row k
    refine ⟨0, ?_⟩
    rw [written, point, ← List.append_assoc]
    have number := IsNumeral.fraction negative left right
    rw [same, value, places] at number
    simpa [Int.negSucc_eq] using number
  | ofNat k =>
    have zeros := row.append_zeros k
    by_cases large : takesExponent ⟨negative, coefficient, .ofNat k⟩ = true
    · refine ⟨k, ?_⟩
      rw [if_pos large, show positional ⟨negative, coefficient, .ofNat k⟩ =
        Numeral.digits coefficient ++ List.replicate k '0' from rfl]
      have number := IsNumeral.whole negative zeros
      rw [Numeral.rowValue_append_zeros, value] at number
      simpa using number
    · refine ⟨k + 1, ?_⟩
      have nonneg : ¬Int.ofNat k < 0 := by simp
      rw [if_neg large, positionalWithPoint, if_neg nonneg, ← List.append_assoc]
      have number := IsNumeral.fraction negative zeros ⟨List.cons_ne_nil '0' [], by simp⟩
      have more : rowValue (Numeral.digits coefficient ++ List.replicate k '0' ++ ['0']) =
          coefficient * 10 ^ (k + 1) := by
        rw [List.append_assoc, show List.replicate k '0' ++ ['0'] = List.replicate (k + 1) '0' from
          (List.replicate_succ' ..).symm, Numeral.rowValue_append_zeros, value]
      rw [more] at number
      have exponent : ((Int.ofNat k) - ((k + 1 : Nat) : Int)) = -1 := by
        simp
      rw [exponent]
      exact number

end Decimal

end FilterScript
