/-!
# Numerals

Digits of whole numbers, read and written. Writing is the usual notation without leading zeros, for
numbers that do not have too many digits; the main statements say that reading the decimal numeral of a
number gives the number back, and which numbers have one that is written.
-/

namespace FilterScript.Numeral

/-! ## Writing -/

/-- The decimal digits of a number, without leading zeros. -/
def digits (n : Nat) : List Char :=
  Nat.toDigits 10 n

/-- The decimal numeral of a whole number, with a minus sign before a negative one. -/
def integer : Int → List Char
  | .ofNat n => digits n
  | .negSucc n => '-' :: digits (n + 1)

/-- The decimal numeral as text. -/
def integerText (n : Int) : String :=
  String.ofList (integer n)

/-- The most decimal digits that a number is read from or written with. -/
def mostDigits : Nat := 4300

/-- Whether a whole number is written in decimal digits at all. The sign does not count. -/
def isWritable (n : Int) : Bool :=
  (digits n.natAbs).length ≤ mostDigits

/-- A numeral filled up with zeros on the left to a width. -/
def padded (width : Nat) (cs : List Char) : List Char :=
  List.replicate (width - cs.length) '0' ++ cs

/-- The hexadecimal numeral in small letters, filled up with zeros to a width. -/
def hexadecimal (width n : Nat) : List Char :=
  padded width (Nat.toDigits 16 n)

/-- The hexadecimal numeral in capital letters, filled up with zeros to a width. -/
def hexadecimalCapital (width n : Nat) : List Char :=
  (hexadecimal width n).map Char.toUpper

/-- The digits of a number are read as the number. -/
theorem ofDigitChars_digits (n : Nat) : Nat.ofDigitChars 10 (digits n) 0 = n :=
  Nat.ofDigitChars_ten_toDigits

/-- A number is written if it is below a power of ten. -/
theorem isWritable_iff {n : Int} : isWritable n = true ↔ n.natAbs < Nat.pow 10 mostDigits := by
  -- for any limit, since this one is not to be multiplied out
  have few : ∀ most, 0 < most → ((digits n.natAbs).length ≤ most ↔ n.natAbs < Nat.pow 10 most) :=
    fun most positive => Nat.length_toDigits_le_iff (by decide) positive
  rw [isWritable, decide_eq_true_iff]
  exact few mostDigits (by decide)

/-- The least number that is not written. -/
theorem isWritable_power_of_ten : isWritable (Int.ofNat (Nat.pow 10 mostDigits)) = false := by
  have irreflexive : ∀ n : Nat, ¬(Int.ofNat n).natAbs < n := Nat.lt_irrefl
  rw [Bool.eq_false_iff, ne_eq, isWritable_iff]
  exact irreflexive _

/-- A numeral is made of the digits of its base. -/
theorem exists_digitChar_of_mem_toDigits {base : Nat} (positional : 1 < base) {n : Nat} {c : Char}
    (h : c ∈ Nat.toDigits base n) : ∃ d < base, c = Nat.digitChar d := by
  induction n using Nat.strongRecOn with
  | ind n ih =>
    rw [Nat.toDigits_eq_if positional] at h
    split at h
    · next small => exact ⟨n, small, List.mem_singleton.1 h⟩
    · next large =>
      rcases List.mem_append.1 h with front | last
      · exact ih (n / base) (Nat.div_lt_self (by omega) positional) front
      · exact ⟨n % base, Nat.mod_lt n (by omega), List.mem_singleton.1 last⟩

/-! ## Reading -/

/-- The value of a digit in bases up to 16, in either case. -/
def digitValue? (c : Char) : Option Nat :=
  if '0' ≤ c ∧ c ≤ '9' then some (c.toNat - '0'.toNat)
  else if 'a' ≤ c ∧ c ≤ 'f' then some (c.toNat - 'a'.toNat + 10)
  else if 'A' ≤ c ∧ c ≤ 'F' then some (c.toNat - 'A'.toNat + 10)
  else none

/-- The value of a digit if it is one of the base. -/
def digitIn? (base : Nat) (c : Char) : Option Nat :=
  (digitValue? c).filter (· < base)

/-- The number that a row of digit values stands for, the leading digit first. -/
def ofValues (base : Nat) (values : List Nat) : Nat :=
  values.foldl (fun n value => n * base + value) 0

/-- Reads a row of one or more digits of a base up to 16. -/
def read? (base : Nat) (cs : List Char) : Option Nat :=
  if cs.isEmpty then none else (cs.mapM (digitIn? base)).map (ofValues base)

/-- A sign in front of a numeral, and the rest. -/
def splitSign : List Char → Bool × List Char
  | '-' :: rest => (true, rest)
  | '+' :: rest => (false, rest)
  | cs => (false, cs)

/-- A whole number from its sign and size. -/
def signed (negative : Bool) (n : Nat) : Int :=
  if negative then -(n : Int) else n

/-- The sign does not change the size of a number. -/
theorem natAbs_signed (negative : Bool) (n : Nat) : (signed negative n).natAbs = n := by
  cases negative with
  | false => exact Int.natAbs_natCast n
  | true => exact (Int.natAbs_neg n).trans (Int.natAbs_natCast n)

/-! ## Decimal digits of all scripts -/

/-- The code points of the digit zero, script by script; the nine others follow each of them. -/
def zeros : List Nat := [
  0x30, 0x660, 0x6F0, 0x7C0, 0x966, 0x9E6, 0xA66, 0xAE6, 0xB66, 0xBE6, 0xC66, 0xCE6, 0xD66, 0xDE6,
  0xE50, 0xED0, 0xF20, 0x1040, 0x1090, 0x17E0, 0x1810, 0x1946, 0x19D0, 0x1A80, 0x1A90, 0x1B50,
  0x1BB0, 0x1C40, 0x1C50, 0xA620, 0xA8D0, 0xA900, 0xA9D0, 0xA9F0, 0xAA50, 0xABF0, 0xFF10, 0x104A0,
  0x10D30, 0x11066, 0x110F0, 0x11136, 0x111D0, 0x112F0, 0x11450, 0x114D0, 0x11650, 0x116C0, 0x11730,
  0x118E0, 0x11950, 0x11C50, 0x11D50, 0x11DA0, 0x11F50, 0x16A60, 0x16AC0, 0x16B50, 0x1D7CE, 0x1D7D8,
  0x1D7E2, 0x1D7EC, 0x1D7F6, 0x1E140, 0x1E2F0, 0x1E4F0, 0x1E950, 0x1FBF0]

/-- The value of a decimal digit of any script. -/
def decimalValue? (c : Char) : Option Nat :=
  (zeros.find? fun z => z ≤ c.toNat && c.toNat < z + 10).map (c.toNat - ·)

/-- Whether a character is a decimal digit of any script. -/
def isDecimal (c : Char) : Bool :=
  (decimalValue? c).isSome

/-- A text with the decimal digits of all scripts written as the usual ones. -/
def withUsualDigits (cs : List Char) : List Char :=
  cs.map fun c => ((decimalValue? c).map Nat.digitChar).getD c

/-- The number that a row of decimal digits of any script stands for; other characters count as
nothing. -/
def ofDecimals (cs : List Char) : Nat :=
  ofValues 10 (cs.filterMap decimalValue?)

end FilterScript.Numeral
