import FilterScript.Number.Binary64

/-!
# The shortest decimal that reads back

A finite binary number is written with the fewest digits that read back to it; among those, with the
digits nearest to it. For one, two, … seventeen digits the two decimals around the number are tried.
The fallback is the exact expansion, which every binary number has.
-/

namespace FilterScript.Binary64

/-- The least power of ten above `n / d`, for positive `n` and `d`. -/
def decimalExponent (n d : Nat) : Int :=
  let k : Int := ((Numeral.digits n).length : Int) - (Numeral.digits d).length
  let reached : Bool := match k with
    | .ofNat j => decide (d * Nat.pow 10 j ≤ n)
    | .negSucc j => decide (d ≤ n * Nat.pow 10 (j + 1))
  if reached then k + 1 else k

/-- `n / d` divided by a power of ten, as a quotient. -/
def onGrid (n d : Nat) (power : Int) : Nat × Nat :=
  match power with
  | .ofNat k => (n, d * Nat.pow 10 k)
  | .negSucc k => (n * Nat.pow 10 (k + 1), d)

/-- The neighbours of `n / d` on the grid of a power of ten, the nearer one first. A tie goes to the
even digit. -/
def neighbours (n d : Nat) (power : Int) : List Decimal :=
  let (n, d) := onGrid n d power
  let below : Decimal := ⟨false, n / d, power⟩
  let above : Decimal := ⟨false, n / d + 1, power⟩
  let nearest := roundQuotient n d
  if nearest = n / d then [below, above] else [above, below]

/-- The first decimal that reads back to the number `n / d`, tried with `count`, `count + 1`, …
digits for `fuel` lengths. -/
def shortestFrom (target : Binary64) (n d : Nat) : Nat → Nat → Option Decimal
  | 0, _ => none
  | fuel + 1, count =>
    match (neighbours n d (decimalExponent n d - count)).find? fun c => ofDecimal c == target with
    | some found => some found
    | none => shortestFrom target n d fuel (count + 1)

/-- The exact decimal expansion of `mantissa · 2 ^ exponent`. -/
def exactDecimal (mantissa : Nat) (exponent : Int) : Decimal :=
  match exponent with
  | .ofNat k => ⟨false, mantissa * Nat.pow 2 k, 0⟩
  | .negSucc k => ⟨false, mantissa * Nat.pow 5 (k + 1), -(k + 1 : Int)⟩

/-- The shortest decimal that reads back to a finite number. -/
def shortest (negative : Bool) (mantissa : Nat) (exponent : Int)
    (canonical : Canonical mantissa exponent) : Decimal :=
  if mantissa = 0 then ⟨negative, 0, 0⟩
  else
    let size := scaled mantissa exponent
    let target := finite false mantissa exponent canonical
    let found := shortestFrom target size.num.natAbs size.den 17 1
    let decimal := (found.getD (exactDecimal mantissa exponent)).reduced
    { decimal with negative := negative }

/-! ## Texts -/

/-- The text of a number, given how a finite one is written. -/
def textWith (write : Decimal → String) : Binary64 → String
  | nan => "nan"
  | infinite false => "inf"
  | infinite true => "-inf"
  | finite negative m e h => write (shortest negative m e h)

/-- The text of a number in messages: the short notation. -/
def shortText : Binary64 → String :=
  textWith Decimal.short

/-- The text of a number in scripts: without an exponent. -/
def plainText : Binary64 → String :=
  textWith Decimal.plain

/-- Reads a number in either decimal notation, or the names of the numbers that are not finite. -/
def read? (cs : List Char) : Option Binary64 :=
  let (negative, name) := Numeral.splitSign cs
  let name := name.map Char.toLower
  if name = ['n', 'a', 'n'] then some nan
  else if name = ['i', 'n', 'f'] ∨ name = ['i', 'n', 'f', 'i', 'n', 'i', 't', 'y'] then
    some (infinite negative)
  else (Decimal.read? cs).map ofDecimal

end FilterScript.Binary64
