import FilterScript.Number.Numeral

/-!
# Decimal numbers as they are written

A decimal number is a sign, a row of digits and the power of ten that the last digit counts. It is
read from either notation and written in two: positional notation throughout, for scripts, which
know no exponents; and the short notation, which takes an exponent where the number is very large or
very small. The main statement says that the two notations differ only where the short one takes an
exponent.
-/

namespace FilterScript

/-- The number `± coefficient · 10 ^ exponent`. -/
structure Decimal where
  /-- Whether a minus sign stands in front. Zero has both signs. -/
  negative : Bool
  /-- The digits as one number. -/
  coefficient : Nat
  /-- The power of ten of the last digit. -/
  exponent : Int
deriving DecidableEq, Repr

namespace Decimal

/-! ## The number denoted -/

/-- The rational number `coefficient · 10 ^ exponent`, without the sign. -/
def magnitude (d : Decimal) : Rat :=
  match d.exponent with
  | .ofNat k => mkRat (d.coefficient * Nat.pow 10 k : Nat) 1
  | .negSucc k => mkRat d.coefficient (Nat.pow 10 (k + 1))

/-- The rational number denoted. -/
def toRat (d : Decimal) : Rat :=
  if d.negative then -d.magnitude else d.magnitude

/-- The digits of the coefficient. -/
def digits (d : Decimal) : List Char :=
  Numeral.digits d.coefficient

/-- The same number with no zero at the end of the coefficient, as far as `fuel` zeros go. -/
def dropZeros : Nat → Decimal → Decimal
  | 0, d => d
  | fuel + 1, d =>
    if d.coefficient ≠ 0 ∧ d.coefficient % 10 = 0 then
      dropZeros fuel ⟨d.negative, d.coefficient / 10, d.exponent + 1⟩
    else d

/-- The same number with no zero at the end of the coefficient. -/
def reduced (d : Decimal) : Decimal :=
  dropZeros d.digits.length d

/-! ## Writing -/

/-- The minus sign, if any. -/
def sign (d : Decimal) : List Char :=
  if d.negative then ['-'] else []

/-- A row of digits whose last `places` digits stand behind the point, with as many zeros in front
as that takes. -/
def withPoint (digits : List Char) (places : Nat) : List Char :=
  let row := List.replicate (places + 1 - digits.length) '0' ++ digits
  row.take (row.length - places) ++ '.' :: row.drop (row.length - places)

/-- The digits in positional notation, with a point only where digits stand behind it. -/
def positional (d : Decimal) : List Char :=
  match d.exponent with
  | .ofNat k => d.digits ++ List.replicate k '0'
  | .negSucc k => withPoint d.digits (k + 1)

/-- The power of ten of the leading digit. -/
def leadingExponent (d : Decimal) : Int :=
  d.exponent + d.digits.length - 1

/-- The digits with a point behind the first one and an exponent of at least two digits. -/
def scientific (d : Decimal) : List Char :=
  let row := match d.digits with
    | [] => []
    | [c] => [c]
    | c :: rest => c :: '.' :: rest
  let power := d.leadingExponent
  row ++ 'e' :: (if power < 0 then '-' else '+') :: Numeral.padded 2 (Numeral.digits power.natAbs)

/-- Whether the short notation takes an exponent: below `10 ^ -4` and from `10 ^ 16` on. -/
def takesExponent (d : Decimal) : Bool :=
  d.coefficient ≠ 0 && (d.leadingExponent < -4 || 16 ≤ d.leadingExponent)

/-- Positional notation with at least one digit behind the point. -/
def positionalWithPoint (d : Decimal) : List Char :=
  if d.exponent < 0 then d.positional else d.positional ++ ['.', '0']

/-- The short notation. -/
def short (d : Decimal) : String :=
  String.ofList (d.sign ++ if d.takesExponent then d.scientific else d.positionalWithPoint)

/-- The notation for scripts: the short one, with the exponent written out in zeros. -/
def plain (d : Decimal) : String :=
  String.ofList (d.sign ++ if d.takesExponent then d.positional else d.positionalWithPoint)

/-- The two notations are the same text unless the short one takes an exponent. -/
theorem plain_eq_short {d : Decimal} (h : d.takesExponent = false) : d.plain = d.short := by
  simp [plain, short, h]

/-! ## Reading -/

/-- Reads an exponent: nothing, or the letter, a sign if there is one, and digits. -/
def readExponent? : List Char → Option Int
  | [] => some 0
  | e :: rest =>
    if e = 'e' ∨ e = 'E' then
      let (negative, row) := Numeral.splitSign rest
      (Numeral.read? 10 row).map (Numeral.signed negative)
    else none

/-- Reads a number in either notation: a sign if there is one, digits with a point among them or
not, and an exponent if there is one. At least one digit is required. -/
def read? (cs : List Char) : Option Decimal :=
  let (negative, rest) := Numeral.splitSign cs
  let whole := rest.takeWhile Char.isDigit
  let rest := rest.dropWhile Char.isDigit
  let (fraction, rest) := match rest with
    | '.' :: rest => (rest.takeWhile Char.isDigit, rest.dropWhile Char.isDigit)
    | _ => ([], rest)
  match Numeral.read? 10 (whole ++ fraction), readExponent? rest with
  | some coefficient, some exponent =>
    some ⟨negative, coefficient, exponent - fraction.length⟩
  | _, _ => none

end Decimal

end FilterScript
