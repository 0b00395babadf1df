import FilterScript.Number.Numeral

/-!
# Bytes in hexadecimal

A numeral that is filled up to two digits for each byte of a number shows the bytes one after the
other.

* **One digit more** (`hexadecimalCapital_succ`): the last digit of a numeral is that of the remainder, and
  the others are the numeral of the quotient, one digit shorter.
* **Bytes** (`hexadecimalCapital_ofValues`): each byte is a pair of digits.
-/

namespace FilterScript.Numeral

/-- The hexadecimal digits in capital letters, in the order of their values. -/
def capitalDigits : List Char :=
  ['0', '1', '2', '3', '4', '5', '6', '7', '8', '9', 'A', 'B', 'C', 'D', 'E', 'F']

/-- The two digits of a byte. -/
def bytePair (byte : Nat) : List Char :=
  [capitalDigits.getD (byte / 16) '0', capitalDigits.getD (byte % 16) '0']

/-- The capital of a digit. -/
theorem toUpper_digitChar : ∀ d < 16, (Nat.digitChar d).toUpper = capitalDigits.getD d '0' := by
  decide

/-! ## Digits -/

/-- One digit. -/
theorem hexadecimalCapital_one {n : Nat} (small : n < 16) :
    hexadecimalCapital 1 n = [capitalDigits.getD n '0'] := by
  rw [hexadecimalCapital, hexadecimal, Nat.toDigits_of_lt_base small, ← toUpper_digitChar n small]
  rfl

/-- **One digit more**: the last digit of a numeral is that of the remainder. -/
theorem hexadecimalCapital_succ (width n : Nat) :
    hexadecimalCapital (width + 2) n =
      hexadecimalCapital (width + 1) (n / 16) ++ [capitalDigits.getD (n % 16) '0'] := by
  have digits : hexadecimal (width + 2) n =
      hexadecimal (width + 1) (n / 16) ++ [Nat.digitChar (n % 16)] := by
    by_cases small : n < 16
    · rw [hexadecimal, hexadecimal, Nat.toDigits_of_lt_base small, Nat.div_eq_of_lt small,
        Nat.mod_eq_of_lt small, padded, padded, Nat.toDigits_of_lt_base (by decide : 0 < 16)]
      show List.replicate (width + 1) '0' ++ _ = List.replicate width '0' ++ ['0'] ++ _
      rw [List.replicate_succ']
    · have zeros (k : Nat) : width + 2 - (k + 1) = width + 1 - k := by omega
      rw [hexadecimal, hexadecimal, padded, padded, Nat.toDigits_eq_if (by decide), if_neg small,
        List.length_append, List.length_singleton, zeros, List.append_assoc]
  rw [hexadecimalCapital, digits, List.map_append, List.map_singleton,
    toUpper_digitChar (n % 16) (Nat.mod_lt n (by decide))]
  rfl

/-! ## Bytes -/

/-- Two digits make a byte. -/
theorem hexadecimalCapital_two {byte : Nat} (small : byte < 256) :
    hexadecimalCapital 2 byte = bytePair byte := by
  rw [hexadecimalCapital_succ, hexadecimalCapital_one (by omega)]
  rfl

/-- A numeral with one byte more. -/
theorem hexadecimalCapital_add_byte (width n : Nat) {byte : Nat} (small : byte < 256) :
    hexadecimalCapital (width + 3) (n * 256 + byte) =
      hexadecimalCapital (width + 1) n ++ bytePair byte := by
  have high : (n * 256 + byte) / 16 / 16 = n := by omega
  have middle : (n * 256 + byte) / 16 % 16 = byte / 16 := by omega
  have low : (n * 256 + byte) % 16 = byte % 16 := by omega
  rw [hexadecimalCapital_succ, hexadecimalCapital_succ, high, middle, low, List.append_assoc]
  rfl

/-- **Bytes**: in a numeral with two digits for each byte the bytes stand one after the other. -/
theorem hexadecimalCapital_ofValues {bytes : List Nat} (some : bytes ≠ [])
    (small : ∀ byte ∈ bytes, byte < 256) :
    hexadecimalCapital (2 * bytes.length) (ofValues 256 bytes) = bytes.flatMap bytePair := by
  -- the first bytes make a number already, and each of the others goes behind it
  have behind (width n : Nat) (rest : List Nat) (small : ∀ byte ∈ rest, byte < 256) :
      hexadecimalCapital (width + 1 + 2 * rest.length)
          (rest.foldl (fun n byte => n * 256 + byte) n) =
        hexadecimalCapital (width + 1) n ++ rest.flatMap bytePair := by
    induction rest generalizing width n with
    | nil => exact (List.append_nil _).symm
    | cons byte rest ih =>
      rw [List.forall_mem_cons] at small
      have whole : width + 1 + 2 * (byte :: rest).length = width + 2 + 1 + 2 * rest.length := by
        rw [List.length_cons]
        omega
      rw [whole, List.foldl_cons, ih (width + 2) (n * 256 + byte) small.2,
        hexadecimalCapital_add_byte width n small.1, List.flatMap_cons, List.append_assoc]
  cases bytes with
  | nil => exact absurd rfl some
  | cons byte rest =>
    rw [List.forall_mem_cons] at small
    have whole : 2 * (byte :: rest).length = 1 + 1 + 2 * rest.length := by
      rw [List.length_cons]
      omega
    rw [ofValues, whole, List.foldl_cons, Nat.zero_mul, Nat.zero_add, behind 1 byte rest small.2,
      hexadecimalCapital_two small.1, List.flatMap_cons]

end FilterScript.Numeral
